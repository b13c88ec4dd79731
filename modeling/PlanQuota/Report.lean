import PlanQuota.Binary64.Shortest
import PlanQuota.Catalog.Basic
import PlanQuota.Text.Quoted

/-! Values laid out over several lines, one line for each field, for a person to read. -/
namespace PlanQuota

inductive Report
  | plain (text : String)
  /-- A value in parentheses after a name. -/
  | wrapped (name : String) (value : Report)
  | record (name : String) (fields : List (String × Report))

namespace Report

def newline (indent : Nat) : String := "\n" ++ String.ofList (List.replicate indent ' ')

mutual

/-- The text of a value that stands at an indentation. -/
def render (indent : Nat) : Report → String
  | plain text => text
  | wrapped name value =>
    name ++ "(" ++ newline (indent + 4) ++ render (indent + 4) value ++ "," ++ newline indent ++ ")"
  | record name fields =>
    name ++ " \x7b" ++ renderFields (indent + 4) fields ++ newline indent ++ "\x7d"

def renderFields (indent : Nat) : List (String × Report) → String
  | [] => ""
  | (name, value) :: rest =>
    newline indent ++ name ++ ": " ++ render indent value ++ "," ++ renderFields indent rest

end

def toText (r : Report) : String := r.render 0

def text (s : String) : Report := .plain (quoted s)

def bool (b : Bool) : Report := .plain (if b then "true" else "false")

def number (x : Binary64) : Report := .plain x.text

def optional {α : Type} (report : α → Report) : Option α → Report
  | some a => .wrapped "Some" (report a)
  | none => .plain "None"

def plan (p : EntitledPlan) : Report := .record "EntitledServicePlan" [
  ("name", text p.name),
  ("display_name", optional text p.displayName),
  ("unique_identifier", optional text p.identifier),
  ("category", optional text p.category),
  ("unlimited", bool p.unlimited),
  ("amount", optional number p.amount)]

def assignment (a : Assignment) : Report := .record "AssignmentRecord" [
  ("entity_id", text a.entity),
  ("entity_type", optional text a.entityType),
  ("entity_state", optional text a.entityState),
  ("state_message", optional text a.stateMessage),
  ("amount", optional number a.amount),
  ("requested_amount", optional number a.requestedAmount),
  ("enabled", optional bool a.enabled),
  ("unlimited_amount_assigned", optional bool a.unlimitedAmount)]

end Report
end PlanQuota
