import Courier.Json.Writer
import Courier.Json.Decode

/-!
# Queries and business requests

What a partner can be asked without changing anything, and what it can be asked to do by a
task of its own.

Main definitions:

- `Query` is a question to a partner.
- `BusinessRequest` is a text for a named task of the partner.
-/

namespace Courier

/-! ## Queries -/

/-- A question that a partner answers at once. -/
inductive Query where
  /-- What is the partner's record of a transfer? -/
  | describeTransfer (specialId : Int) (requester requested : String)
  /-- Which files would the partner send under a rule? -/
  | listFiles (rule pattern : String)
deriving DecidableEq, Repr, Inhabited

namespace Query

/-- The kinds of questions. -/
inductive Kind where
  | describeTransfer
  | listFiles
deriving DecidableEq, Repr

/-- The names of the kinds, in order. -/
def kinds : List (String × Kind) :=
  [("describeTransfer", .describeTransfer), ("listFiles", .listFiles)]

/-- The members of a question. -/
def members : Query → List (String × Json)
  | describeTransfer specialId requester requested =>
      [("query", .string "describeTransfer"), ("specialId", .ofInt specialId),
        ("requester", .string requester), ("requested", .string requested)]
  | listFiles rule pattern =>
      [("query", .string "listFiles"), ("rule", .string rule), ("pattern", .string pattern)]

/-- A question as an object. -/
def toJson (q : Query) : Json :=
  .object q.members

/-- Read what a question of a kind is about. -/
def ofKind : Kind → Json → Json.Decoded Query
  | .describeTransfer, j => do
      let f ← Json.fields ["specialId", "requester", "requested"] j
      let specialId ← f.required "specialId" Json.toInt64
      let requester ← f.required "requester" Json.toText
      let requested ← f.required "requested" Json.toText
      return describeTransfer specialId requester requested
  | .listFiles, j => do
      let f ← Json.fields ["rule", "pattern"] j
      let rule ← f.required "rule" Json.toText
      let pattern ← f.required "pattern" Json.toText
      return listFiles rule pattern

/-- Read a question that was kept before its kind was known. -/
def ofBuffered (j : Json) : Json.Decoded Query := do
  let (tag, rest) ← Json.splitTag "query" j
  let kind ← Json.bufferedTag kinds tag
  ofKind kind rest

/-- Read a question. -/
def ofJson (j : Json) : Json.Decoded Query := do
  let (tag, rest) ← Json.splitTag "query" j
  let kind ← Json.plainTag kinds tag
  let rest ← Json.buffered rest
  ofKind kind rest

end Query

/-! ## Business requests -/

/-- A text for a named task of a partner. -/
structure BusinessRequest where
  task : String
  argument : String
deriving DecidableEq, Repr, Inhabited

namespace BusinessRequest

/-- The fields of a request, in order. -/
def fieldNames : List String := ["task", "argument"]

/-- The members of a request. -/
def members (r : BusinessRequest) : List (String × Json) :=
  [("task", .string r.task), ("argument", .string r.argument)]

/-- Read a request. -/
def ofJson (j : Json) : Json.Decoded BusinessRequest := do
  let f ← Json.fields fieldNames j
  let task ← f.required "task" Json.toText
  let argument ← f.required "argument" Json.toText
  return { task, argument }

end BusinessRequest

end Courier
