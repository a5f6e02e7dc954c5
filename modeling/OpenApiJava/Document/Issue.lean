import OpenApiJava.Tree.Display

/-!
# Issues

What keeps a tree from being a document: the kind of fault and the place of it. A check goes on
after the first issue, so that it reports all of them in the order of the tree. Main statements: a
combination of checks is valid exactly if all of them are.
-/

namespace OpenApiJava

/-- One step on the way from the root of a tree to a place in it. -/
inductive Step where
  | key (name : String)
  | index (position : Int)
deriving DecidableEq, Repr

/-- What is wrong at a place. -/
inductive IssueKind where
  /-- A record with known fields has to stand here. -/
  | notRecord
  /-- A mapping with free keys has to stand here. -/
  | notMapping
  | notList
  | notText
  /-- Bytes stand here that encode no text. -/
  | notEncoded
  /-- A value stands here that has no text. -/
  | notPrintable
  /-- A field without a default is absent. -/
  | missing
  /-- A record with free fields has a key that is no text. -/
  | badField
deriving DecidableEq, Repr

/-- A fault and its place. -/
structure Issue where
  kind : IssueKind
  location : List Step
deriving DecidableEq, Repr

/-- What stands for an integer that is too long to have a text. -/
def unprintableName : String := "<unprintable int object>"

/-- The step that leads to the value of an entry. Whole numbers of 64 bits count as positions. -/
def Step.ofKey : Tree → Step
  | .text name => .key name
  | .boolean value => .index value.toInt
  | .integer value =>
      if -9223372036854775808 ≤ value && value < 9223372036854775808 then .index value
      else if (Tree.integer value).isPrintable then .key (toString value)
      else .key unprintableName
  | other => .key other.innerText

/-- A value, or the issues that keep it from being one. -/
inductive Checked (α : Type) where
  | valid (value : α)
  | invalid (issues : List Issue)
deriving Repr

namespace Checked

variable {α β : Type}

def map (function : α → β) : Checked α → Checked β
  | valid value => valid (function value)
  | invalid issues => invalid issues

/-- Both checks, with the issues of the first in front of those of the second. -/
def seq (function : Checked (α → β)) (argument : Checked α) : Checked β :=
  match function, argument with
  | valid apply, valid value => valid (apply value)
  | valid _, invalid issues => invalid issues
  | invalid issues, valid _ => invalid issues
  | invalid issues, invalid more => invalid (issues ++ more)

instance : Applicative Checked where
  pure := valid
  map := map
  seq function argument := seq function (argument ())

/-- One issue at the root. -/
def fault (kind : IssueKind) : Checked α :=
  invalid [⟨kind, []⟩]

/-- The check of a part, with the step to the part in front of every location. -/
def under (step : Step) : Checked α → Checked α
  | valid value => valid value
  | invalid issues =>
      invalid (issues.map fun issue => { issue with location := step :: issue.location })

/-- The checks of all items, each under its position. -/
def eachFrom (position : Nat) (check : Tree → Checked α) : List Tree → Checked (List α)
  | [] => valid []
  | item :: rest =>
      List.cons <$> (check item).under (.index position) <*> eachFrom (position + 1) check rest

@[simp]
theorem map_eq_valid {function : α → β} {checked : Checked α} {result : β} :
    function <$> checked = valid result ↔
      ∃ value, checked = valid value ∧ function value = result := by
  cases checked <;> simp [Functor.map, map]

@[simp]
theorem seq_eq_valid
    {function : Checked (α → β)} {argument : Checked α} {result : β} :
    function <*> argument = valid result ↔
      ∃ apply value,
        function = valid apply ∧ argument = valid value ∧ apply value = result := by
  cases function <;> cases argument <;> simp [Seq.seq, seq]

@[simp]
theorem under_eq_valid {step : Step} {checked : Checked α} {value : α} :
    checked.under step = valid value ↔ checked = valid value := by
  cases checked <;> simp [under]

end Checked

end OpenApiJava
