import TurnScript.Proofs.Evaluation.DepthLimit
import TurnScript.Proofs.Evaluation.Lookup
import TurnScript.Proofs.Evaluation.Scopes
import TurnScript.Proofs.Evaluation.Tasks

/-!
# Bindings in front of the state

A name can be read in three ways: as a bare symbol, by `GET_STATE` with the bare name, and by
`GET_STATE` with a text. `GET_STATE` answers what is bound to the whole name, or else what the store
holds at it (`Scope.read`, `outcome_getState`). So does a bare symbol, unless a binding of what
stands before its first dot comes in between (`lookUp_eq_read`).

* `bindings_shadow_state_alike`: in all other cases the three ways have one outcome, in which the
  innermost scope that binds the name counts before the store, and nothing is changed.
-/

namespace TurnScript

/-! ## Names that are read as a whole -/

/-- An error of the store has no trail. -/
theorem Store.mapError_within_get (step : TrailStep) (path : String) (store : Store) :
    (store.get path).mapError (Error.within step) = store.get path := by
  unfold Store.get
  split <;> rfl

namespace Scope

variable (scope : Scope)

/-- What is bound to `name` or, if nothing is, what the store holds at it. -/
def read (name : String) (store : Store) : Except Error Value :=
  match scope.find? name with
  | some v => .ok v
  | none => store.get name

/-- The name is bound itself, has no dot, or is not bound as far as its first dot. So it is not
    looked up in the value of a binding. -/
def TakesWhole (name : String) : Prop :=
  (∃ v, scope.find? name = some v) ∨ '.' ∉ name.toList ∨
    ∀ head rest, name = head ++ "." ++ rest → '.' ∉ head.toList → scope.find? head = none

variable {scope} {name : String} {v : Value}

theorem read_of_some (h : scope.find? name = some v) (store : Store) :
    scope.read name store = .ok v := by
  rw [read, h]

theorem read_of_none (h : scope.find? name = none) (store : Store) :
    scope.read name store = store.get name := by
  rw [read, h]

theorem mapError_within_read (step : TrailStep) (store : Store) :
    (scope.read name store).mapError (Error.within step) = scope.read name store := by
  cases h : scope.find? name with
  | some v => rw [read_of_some h, Except.mapError]
  | none => rw [read_of_none h, Store.mapError_within_get]

end Scope

/-! ## Chains of maps -/

namespace Frames

/-- The maps of the chain, the innermost first. -/
def maps (frames : Frames) : List (Keyed Value) := frames.inner :: frames.outer

/-- The innermost of the scopes that bind `name` binds it to `v`. -/
def BindsInnermost (frames : Frames) (name : String) (v : Value) : Prop :=
  ∃ inside m outside, frames.maps = inside ++ m :: outside ∧ Keyed.find? name m = some v ∧
    ∀ m' ∈ inside, Keyed.find? name m' = none

variable {frames : Frames} {name : String} {v : Value}

theorem find?_eq_findSome? : frames.find? name = frames.maps.findSome? (Keyed.find? name) := by
  rw [find?, maps, List.findSome?_cons]
  cases Keyed.find? name frames.inner <;> rfl

theorem find?_eq_some_iff : frames.find? name = some v ↔ frames.BindsInnermost name v := by
  rw [find?_eq_findSome?, List.findSome?_eq_some_iff]
  rfl

theorem find?_eq_none_iff :
    frames.find? name = none ↔ ∀ m ∈ frames.maps, Keyed.find? name m = none := by
  rw [find?_eq_findSome?, List.findSome?_eq_none_iff]

/-- Every scope is that of a chain, so what is shown on chains holds in all scopes. -/
theorem exists_scope_eq (scope : Scope) : ∃ frames : Frames, frames.scope = scope :=
  ⟨{ inner := scope.bindings, context := scope.context }, by simp [Frames.scope]⟩

end Frames

/-! ## The three ways -/

theorem Function.outcome_stateAt (name : String) (scope : Scope) (world : World) :
    (stateAt name scope).outcome world = (scope.read name world.store, world) := by
  rw [stateAt]
  cases h : scope.find? name with
  | some v => rw [Scope.read_of_some h, Run.outcome_pure]
  | none => rw [Scope.read_of_none h, Run.outcome_read]

namespace Evaluation

variable {setting : Setting} {scope : Scope} {name : String}

theorem reserved?_eq_none_iff : reserved? name = none ↔ name ∉ ["NIL", "TRUE", "FALSE"] := by
  unfold reserved?
  split <;> simp_all

/-- A symbol that is not looked up in the value of a binding is read as a whole. -/
theorem lookUp_eq_read (hreserved : reserved? name = none) (hwhole : scope.TakesWhole name)
    (store : Store) : lookUp name scope store = scope.read name store := by
  cases hfind : scope.find? name with
  | some v => simp only [lookUp, hreserved, hfind, Scope.read_of_some hfind]
  | none =>
    rw [Scope.read_of_none hfind]
    by_cases hdot : '.' ∈ name.toList
    · obtain ⟨head, rest, rfl, hhead⟩ := Path.exists_dotted hdot
      have hfree : scope.find? head = none := by
        rcases hwhole with ⟨v, hv⟩ | hplain | hfree
        · cases hfind.symm.trans hv
        · exact absurd hdot hplain
        · exact hfree head rest rfl hhead
      obtain ⟨key, keys, hrest⟩ := List.exists_cons_of_ne_nil (Path.pieces_ne_nil rest)
      simp only [lookUp, hreserved, hfind, Path.pieces_dotted hhead, hrest, hfree]
    · simp only [lookUp, hreserved, hfind, Path.pieces_of_dot_not_mem hdot]

/-- `GET_STATE` reads the name that its argument comes to, and no trail is left by what it does not
    find. -/
theorem outcome_getState {levels : Nat} {argument : Form}
    (hargument : functionArguments (evalAt setting levels) .getState scope [argument] =
      pure [.text name]) (world : World) :
    (evalAt setting (levels + 1) (.list [.symbol "GET_STATE", argument]) scope).outcome world =
      (scope.read name world.store, world) := by
  have happly : applyList setting.program (evalAt setting levels) (callAt setting levels) scope
      [.symbol "GET_STATE", argument] = Function.stateAt name scope := by
    refine (applyList_function .getState rfl).trans ?_
    rw [hargument]
    rfl
  rw [evalAt, happly, Run.outcome_within, Function.outcome_stateAt, Scope.mapError_within_read]

/-- Whether a name is read as a bare symbol, by `GET_STATE`, or by `GET_STATE` from a text, the
    outcome is the same: the value to which the innermost scope that binds the name binds it or, if
    none does, what the store answers at it. The world is left as it is. -/
theorem bindings_shadow_state_alike {depth : Nat} (hdepth : depth < setting.depthLimit)
    (frames : Frames) (world : World) (hname : name ∉ ["NIL", "TRUE", "FALSE"])
    (hwhole : frames.scope.TakesWhole name) :
    ∃ r : Except Error Value,
      (setting.evalOn (.symbol name) frames.scope depth).outcome world = (r, world) ∧
      (setting.evalOn (.list [.symbol "GET_STATE", .symbol name]) frames.scope depth).outcome
        world = (r, world) ∧
      (depth + 1 < setting.depthLimit →
        (setting.evalOn (.list [.symbol "GET_STATE", .text name]) frames.scope depth).outcome
          world = (r, world)) ∧
      (∀ v, frames.BindsInnermost name v → r = .ok v) ∧
      ((∀ m ∈ frames.maps, Keyed.find? name m = none) → r = world.store.get name) := by
  obtain ⟨levels, hlevels⟩ : ∃ levels, setting.levelsAt depth = levels + 1 :=
    Nat.exists_eq_succ_of_ne_zero (Nat.sub_ne_zero_of_lt hdepth)
  simp only [Setting.evalOn, hlevels]
  refine ⟨frames.scope.read name world.store, ?_, outcome_getState ?_ world, fun hmore => ?_,
    fun v hv => ?_, fun hnone => ?_⟩
  · rw [outcome_evalAt_symbol, lookUp_eq_read (reserved?_eq_none_iff.2 hname) hwhole]
  · rw [functionArguments_path rfl]
    rfl
  · -- the text is evaluated one level below
    obtain ⟨inner, rfl⟩ : ∃ inner, levels = inner + 1 := by
      refine Nat.exists_eq_succ_of_ne_zero fun hzero => ?_
      rw [Setting.levelsAt] at hlevels
      omega
    exact outcome_getState rfl world
  · rw [← Frames.find?_eq_some_iff, ← Frames.find?_scope] at hv
    exact Scope.read_of_some hv _
  · rw [← Frames.find?_eq_none_iff, ← Frames.find?_scope] at hnone
    exact Scope.read_of_none hnone _

/-- A draft of a title, bound inside a scope that binds another one and a user. -/
def drafts : Frames :=
  { inner := [("title", .text "Draft")]
    outer := [[("title", .text "Old"), ("user", .text "Ann")]] }

/-- A world whose store has a user, a title, and the title of a project. -/
def stored : World :=
  { store := { root :=
      [("proj", .map [("title", .text "Bridge")]), ("title", .text "Tower"),
        ("user", .text "Bob")] } }

/-- The draft stands in front of both other titles, and the user of the outer scope in front of the
    stored one. The title of the project is not bound, and found in the store. -/
theorem bindings_shadow_state_alike_drafts :
    (0 < 2 ∧ 0 + 1 < 2 ∧ ∀ name ∈ ["title", "user", "proj.title"],
      name ∉ ["NIL", "TRUE", "FALSE"] ∧ drafts.scope.TakesWhole name) ∧
    (Setting.evalOn ⟨{}, 2⟩ (.list [.symbol "GET_STATE", .text "title"]) drafts.scope 0).outcome
      stored = (.ok (.text "Draft"), stored) ∧
    (Setting.evalOn ⟨{}, 2⟩ (.symbol "user") drafts.scope 0).outcome stored =
      (.ok (.text "Ann"), stored) ∧
    (Setting.evalOn ⟨{}, 2⟩ (.list [.symbol "GET_STATE", .symbol "proj.title"]) drafts.scope
      0).outcome stored = (.ok (.text "Bridge"), stored) := by
  have hdepth : 0 < Setting.depthLimit ⟨{}, 2⟩ := by decide
  have htitle : drafts.scope.TakesWhole "title" := .inl ⟨_, rfl⟩
  have huser : drafts.scope.TakesWhole "user" := .inl ⟨_, rfl⟩
  have hproj : drafts.scope.TakesWhole "proj.title" := by
    refine .inr (.inr fun head rest heq hdot => ?_)
    have hpieces : Path.pieces (head ++ "." ++ rest) = ["proj", "title"] := by
      rw [← heq]
      decide
    rw [Path.pieces_dotted hdot] at hpieces
    rw [(List.cons.inj hpieces).1]
    rfl
  refine ⟨⟨by decide, by decide, by simp [htitle, huser, hproj]⟩, ?_, ?_, ?_⟩
  · obtain ⟨r, -, -, htext, hbound, -⟩ :=
      bindings_shadow_state_alike hdepth drafts stored (by decide) htitle
    rw [htext (by decide), hbound (.text "Draft") ⟨[], _, _, rfl, rfl, nofun⟩]
  · obtain ⟨r, hsymbol, -, -, hbound, -⟩ :=
      bindings_shadow_state_alike hdepth drafts stored (by decide) huser
    rw [hsymbol, hbound (.text "Ann") ⟨[drafts.inner], _, [], rfl, rfl, by decide⟩]
  · obtain ⟨r, -, hpath, -, -, hfree⟩ :=
      bindings_shadow_state_alike hdepth drafts stored (by decide) hproj
    rw [hpath, hfree (by decide)]
    decide

end Evaluation

end TurnScript
