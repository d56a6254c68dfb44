import Courier.Transfer.Fault
import Courier.Transfer.Mode

/-!
# Rules

A rule names a way to move data: its mode and the directories it works in.

Main definitions:

- `Rule` is a rule.
- `RuleBook` is a table of rules by name; a later rule replaces an earlier one.

Main statements:

- A rule that was added is resolved, and other names are resolved as before
  (`resolve_add`, `resolve_add_of_ne`).
-/

namespace Courier

/-- A named way to move data. -/
structure Rule where
  name : String
  mode : Mode
  /-- Where files to be sent lie. -/
  sendPath : Path := ⟨""⟩
  recvPath : Path := ⟨""⟩
deriving DecidableEq, Repr, Inhabited

namespace Rule

/-- Whether the rule sends. -/
def canSend (r : Rule) : Bool :=
  r.mode.isSend

/-- Whether the rule receives. -/
def canReceive (r : Rule) : Bool :=
  r.mode.isRecv

/-- The fields of a rule, in order. -/
def fieldNames : List String := ["name", "mode", "sendPath", "recvPath"]

/-- A rule as an object. -/
def toJson (r : Rule) : Json :=
  .object [("name", .string r.name), ("mode", r.mode.toJson), ("sendPath", r.sendPath.toJson),
    ("recvPath", r.recvPath.toJson)]

/-- Read a rule. -/
def ofJson (j : Json) : Json.Decoded Rule := do
  let f ← Json.fields fieldNames j
  let name ← f.required "name" Json.toText
  let mode ← f.required "mode" Mode.ofJson
  let sendPath ← f.withDefault "sendPath" ⟨""⟩ Path.ofJson
  let recvPath ← f.withDefault "recvPath" ⟨""⟩ Path.ofJson
  return { name, mode, sendPath, recvPath }

end Rule

/-- A table of rules by name. -/
structure RuleBook where
  /-- The rules, a later one before an earlier one. -/
  rules : List (String × Rule) := []
deriving DecidableEq, Repr, Inhabited

namespace RuleBook

/-- Add a rule; it replaces one of the same name. -/
def add (b : RuleBook) (r : Rule) : RuleBook :=
  ⟨(r.name, r) :: b.rules⟩

/-- The table of some rules. -/
def ofList (rules : List Rule) : RuleBook :=
  rules.foldl add {}

/-- The rule of a name. -/
def resolve (b : RuleBook) (name : String) : Except TransferFault Rule :=
  match b.rules.lookup name with
  | some r => .ok r
  | none => .error (.unknownRule name)

/-- A rule that was added is resolved. -/
@[simp]
theorem resolve_add (b : RuleBook) (r : Rule) : (b.add r).resolve r.name = .ok r := by
  simp [resolve, add]

/-- Adding a rule does not change what other names mean. -/
theorem resolve_add_of_ne (b : RuleBook) {r : Rule} {name : String} (h : name ≠ r.name) :
    (b.add r).resolve name = b.resolve name := by
  have hb : (name == r.name) = false := by simp [h]
  simp only [resolve, add, List.lookup_cons, hb]

end RuleBook

end Courier
