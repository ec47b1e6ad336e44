/-!
# Actions

An action is an edit with a name. Keys are bound to names, so that a user may write them in a
configuration file; a name that belongs to no action does nothing.

## Main definitions

* `Action`, `Action.name` and `Action.ofName?`.
* `ActionRegistry` is a set of actions that can be looked up by name.
-/

namespace LineEditor

/-- The edits a key can be bound to. -/
inductive Action
  | acceptLine
  | deleteChar
  | backwardDeleteChar
  | changeCaseChar
  | killLine
  | unixLineDiscard
  | backwardKillWord
  | yank
  | forwardChar
  | backwardChar
  | forwardWord
  | backwardWord
  | beginningOfLine
  | endOfLine
  | previousHistory
  | nextHistory
  | reverseSearchHistory
  | forwardSearchHistory
  | complete
  | undo
  | viMovementMode
  | viInsertMode
  | viAppendMode
  | viInsertBeginningOfLine
  | viAppendEndOfLine
  deriving DecidableEq, Repr

namespace Action

/-- The name a key is bound to. -/
def name : Action → String
  | acceptLine => "accept-line"
  | deleteChar => "delete-char"
  | backwardDeleteChar => "backward-delete-char"
  | changeCaseChar => "change-case-char"
  | killLine => "kill-line"
  | unixLineDiscard => "unix-line-discard"
  | backwardKillWord => "backward-kill-word"
  | yank => "yank"
  | forwardChar => "forward-char"
  | backwardChar => "backward-char"
  | forwardWord => "forward-word"
  | backwardWord => "backward-word"
  | beginningOfLine => "beginning-of-line"
  | endOfLine => "end-of-line"
  | previousHistory => "previous-history"
  | nextHistory => "next-history"
  | reverseSearchHistory => "reverse-search-history"
  | forwardSearchHistory => "forward-search-history"
  | complete => "complete"
  | undo => "undo"
  | viMovementMode => "vi-movement-mode"
  | viInsertMode => "vi-insert-mode"
  | viAppendMode => "vi-append-mode"
  | viInsertBeginningOfLine => "vi-insert-beginning-of-line"
  | viAppendEndOfLine => "vi-append-end-of-line"

/-- Every action once. -/
def all : List Action :=
  [acceptLine, deleteChar, backwardDeleteChar, changeCaseChar, killLine, unixLineDiscard,
    backwardKillWord, yank, forwardChar, backwardChar, forwardWord, backwardWord,
    beginningOfLine, endOfLine, previousHistory, nextHistory, reverseSearchHistory,
    forwardSearchHistory, complete, undo, viMovementMode, viInsertMode, viAppendMode,
    viInsertBeginningOfLine, viAppendEndOfLine]

theorem mem_all (a : Action) : a ∈ all := by
  cases a <;> decide

/-- The action with the given name. -/
def ofName? (name : String) : Option Action :=
  all.find? (·.name = name)

@[simp]
theorem ofName?_name (a : Action) : ofName? a.name = some a := by
  cases a <;> decide

theorem name_injective {a b : Action} (h : a.name = b.name) : a = b := by
  have hb := ofName?_name b
  rw [← h, ofName?_name] at hb
  exact Option.some.inj hb

theorem name_of_ofName? {name : String} {a : Action} (h : ofName? name = some a) :
    a.name = name := by
  simpa using List.find?_some h

/-- The searches share one term, so that a second search goes on where the first one stopped. -/
def isSearch : Action → Bool
  | reverseSearchHistory | forwardSearchHistory => true
  | _ => false

end Action

/-- A set of actions that can be looked up by name. -/
structure ActionRegistry where
  actions : List Action
  deriving DecidableEq, Repr

namespace ActionRegistry

/-- The registry without actions. -/
def empty : ActionRegistry := ⟨[]⟩

/-- The registry of all actions. -/
def builtin : ActionRegistry := ⟨Action.all⟩

/-- The action registered under a name. -/
def find? (r : ActionRegistry) (name : String) : Option Action :=
  r.actions.find? (·.name = name)

/-- Whether a name is registered. -/
def contains (r : ActionRegistry) (name : String) : Bool :=
  (r.find? name).isSome

/-- The registered names. -/
def names (r : ActionRegistry) : List String :=
  r.actions.map Action.name

@[simp]
theorem find?_builtin (name : String) : builtin.find? name = Action.ofName? name := rfl

end ActionRegistry

end LineEditor
