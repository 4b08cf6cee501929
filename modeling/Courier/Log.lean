/-!
Log lines. The program writes its log as data: a line has a level and a text.
-/

namespace Courier

inductive Level where
  | error
  | warn
  | info
  | debug
deriving DecidableEq

def Level.name : Level → String
  | .error => "ERROR"
  | .warn => "WARN"
  | .info => "INFO"
  | .debug => "DEBUG"

structure LogLine where
  level : Level
  text : String
deriving DecidableEq

namespace LogLine

def error (text : String) : LogLine := ⟨.error, text⟩
def warn (text : String) : LogLine := ⟨.warn, text⟩
def info (text : String) : LogLine := ⟨.info, text⟩
def debug (text : String) : LogLine := ⟨.debug, text⟩

end LogLine
end Courier
