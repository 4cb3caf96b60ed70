import ProxyWatch.CommandLine.Options
import ProxyWatch.Text.Column

/-!
The help text of the command line.
-/
namespace ProxyWatch.CommandLine

/-- The program's name as it is typed. -/
def programName : String := "proxyguard"

def versionText : String := programName ++ " Ver:0.3.1"

/-- The forms in which an option is given. -/
def Flag.forms (f : Flag) : String :=
  (match f.short? with
    | some c => "-" ++ String.singleton c ++ ", "
    | none => "    ") ++ "--" ++ f.long ++
  (match f.placeholder? with
    | some name => " <" ++ name ++ ">"
    | none => "")

/-- The width of the column of forms. -/
def formsWidth : Nat := (Flag.all.map (·.forms.length)).foldl max 0

/-- The lines of the help text. -/
def helpLines : List String :=
  ["Proxy health monitoring, failover selection and capture supervision", "",
    "Usage: " ++ programName ++ " [OPTIONS]", "", "Options:"] ++
  Flag.all.map fun f => "  " ++ Column.pad .left formsWidth f.forms ++ "  " ++ f.purpose

end ProxyWatch.CommandLine
