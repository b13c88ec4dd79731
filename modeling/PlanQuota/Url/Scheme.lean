/-! What the scheme of a URL means for reading the rest of it. -/
namespace PlanQuota

/-- The port a special scheme has by default; `file` is special and has none. -/
def specialPort? : String → Option (Option Nat)
  | "ftp" => some (some 21)
  | "file" => some none
  | "http" => some (some 80)
  | "https" => some (some 443)
  | "ws" => some (some 80)
  | "wss" => some (some 443)
  | _ => none

/-- What a scheme means for the rest of a URL. -/
structure SchemeRules where
  isSpecial : Bool
  isFile : Bool
  defaultPort : Option Nat
  deriving DecidableEq, Repr

namespace SchemeRules

def ofScheme (scheme : String) : SchemeRules :=
  match specialPort? scheme with
  | some port => ⟨true, scheme = "file", port⟩
  | none => ⟨false, false, none⟩

/-- Special schemes take a backslash for a slash. -/
def isSlash (r : SchemeRules) (c : Char) : Bool := c = '/' || (r.isSpecial && c = '\\')

end SchemeRules

/-- Tabs and line ends may stand anywhere in a URL and do not count. -/
def isLayout (c : Char) : Bool := c = '\t' || c = '\n' || c = '\r'

/-- The characters of a text that count. -/
def withoutLayout (cs : List Char) : List Char := cs.filter (!isLayout ·)

/-- What follows the slash that a text begins with. -/
def SchemeRules.afterSlash? (r : SchemeRules) (cs : List Char) : Option (List Char) :=
  match cs.dropWhile isLayout with
  | c :: rest => if r.isSlash c then some rest else none
  | [] => none

end PlanQuota
