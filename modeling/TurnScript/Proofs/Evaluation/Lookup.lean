import TurnScript.Evaluation
import TurnScript.Proofs.Run
import TurnScript.Proofs.Store.Read

/-!
# What dotted names mean

A dotted name whose first piece is bound is looked up in the value of this binding, one key after
the other (`lookUp_dotted`). The walk ends where the store's walk along segments ends
(`memberAlong_eq_ok_iff`), but it tells more when it goes wrong: which key is missing, or what is
there instead of a map (`memberAlong_eq_error_iff`).

* `dotted_reads_as_stored`: such a name is evaluated to what the store would hold at it if the value
  of the binding were stored under the first piece. What the store does hold does not matter.
-/

namespace TurnScript

/-! ## Walks through maps -/

namespace Value

open Store (descend Reaches)

variable {keys : List String} {key : String} {v w : Value} {e : Error}

/-- Some of the keys lead from the value to another one, in which the next key cannot be looked up:
    a map that does not have it, or what is no map. -/
inductive LostAt (keys : List String) (v : Value) : Error → Prop
  | missing {front behind : List String} {key : String} {m : Keyed Value} :
    keys = front ++ key :: behind → Reaches front v (.map m) → Keyed.find? key m = none →
    LostAt keys v (.keyNotFound key)
  | noMap {front behind : List String} {key : String} {w : Value} :
    keys = front ++ key :: behind → Reaches front v w → w.kind ≠ .map →
    LostAt keys v (.mismatch (.noMapForKey key w.kind) [])

theorem member_of_some {m : Keyed Value} (h : Keyed.find? key m = some v) :
    (map m).member key = .ok v := by
  rw [member, h]

theorem member_of_none {m : Keyed Value} (h : Keyed.find? key m = none) :
    (map m).member key = .error (.keyNotFound key) := by
  rw [member, h]

theorem member_of_kind_ne_map (h : v.kind ≠ .map) :
    v.member key = .error (.mismatch (.noMapForKey key v.kind) []) := by
  cases v with
  | map m => exact absurd rfl h
  | _ => rfl

theorem memberAlong_cons (key : String) (keys : List String) (v : Value) :
    v.memberAlong (key :: keys) = (v.member key).bind (memberAlong keys) := rfl

theorem memberAlong_append (front behind : List String) (v : Value) :
    v.memberAlong (front ++ behind) = (v.memberAlong front).bind (memberAlong behind) :=
  List.foldlM_append

/-- The keys lead to a value just where the segments of a path do. -/
theorem memberAlong_eq_ok_iff : v.memberAlong keys = .ok w ↔ Reaches keys v w := by
  rw [← Store.descend_eq_some_iff]
  induction keys generalizing v with
  | nil =>
    rw [descend, Option.some.injEq]
    exact ⟨Except.ok.inj, congrArg Except.ok⟩
  | cons key keys ih =>
    rw [memberAlong_cons]
    by_cases hkind : v.kind = .map
    · obtain ⟨m, rfl⟩ := Store.exists_eq_map hkind
      cases hfind : Keyed.find? key m with
      | none => simp [member_of_none hfind, descend, hfind, Except.bind]
      | some inner =>
        rw [member_of_some hfind, descend, hfind]
        exact ih
    · rw [member_of_kind_ne_map hkind]
      cases v with
      | map m => exact absurd rfl hkind
      | _ => constructor <;> intro h <;> cases h

/-- One key more is lost where the keys behind it are, in the value that it leads to. -/
theorem LostAt.cons {m : Keyed Value} (hfind : Keyed.find? key m = some v) (h : LostAt keys v e) :
    LostAt (key :: keys) (.map m) e := by
  cases h with
  | missing hkeys hreaches hnone => exact .missing (by rw [hkeys]; rfl) (.into hfind hreaches) hnone
  | noMap hkeys hreaches hkind => exact .noMap (by rw [hkeys]; rfl) (.into hfind hreaches) hkind

/-- The error tells at which key the walk is lost. -/
theorem memberAlong_eq_error_iff : v.memberAlong keys = .error e ↔ LostAt keys v e := by
  constructor
  · intro h
    induction keys generalizing v with
    | nil => cases h
    | cons key keys ih =>
      rw [memberAlong_cons] at h
      by_cases hkind : v.kind = .map
      · obtain ⟨m, rfl⟩ := Store.exists_eq_map hkind
        cases hfind : Keyed.find? key m with
        | none =>
          rw [member_of_none hfind] at h
          cases h
          exact .missing (List.nil_append _).symm .here hfind
        | some inner =>
          rw [member_of_some hfind] at h
          exact (ih h).cons hfind
      · rw [member_of_kind_ne_map hkind] at h
        cases h
        exact .noMap (List.nil_append _).symm .here hkind
  · -- the keys in front lead to a value, where the next one is looked up
    have hlost {front behind : List String} {key : String} {w : Value} (hkeys : keys =
        front ++ key :: behind) (hreaches : Reaches front v w) (hmember : w.member key = .error e) :
        v.memberAlong keys = .error e := by
      rw [hkeys, memberAlong_append, memberAlong_eq_ok_iff.2 hreaches, Except.bind,
        memberAlong_cons, hmember, Except.bind]
    rintro (⟨hkeys, hreaches, hnone⟩ | ⟨hkeys, hreaches, hkind⟩)
    · exact hlost hkeys hreaches (member_of_none hnone)
    · exact hlost hkeys hreaches (member_of_kind_ne_map hkind)

end Value

/-! ## Dotted names -/

/-- A text with a dot is cut at its first one. -/
theorem Path.exists_dotted {name : String} (h : '.' ∈ name.toList) :
    ∃ head rest, name = head ++ "." ++ rest ∧ '.' ∉ head.toList := by
  obtain ⟨front, behind, hname, hfront⟩ := List.eq_append_cons_of_mem h
  refine ⟨String.ofList front, String.ofList behind, String.toList_inj.1 ?_, ?_⟩
  · simp [String.toList_append, hname]
  · rwa [String.toList_ofList]

/-- A text without a dot is one piece. -/
theorem Path.pieces_of_dot_not_mem {name : String} (h : '.' ∉ name.toList) :
    pieces name = [name] := by
  rw [pieces, piecesOf_of_not_mem h, List.map_singleton, String.ofList_toList]

/-- The first piece of a dotted name stands before its first dot. -/
theorem Path.pieces_dotted {head : String} (hdot : '.' ∉ head.toList) (rest : String) :
    pieces (head ++ "." ++ rest) = head :: pieces rest := by
  have hchars : (head ++ "." ++ rest).toList = head.toList ++ '.' :: rest.toList := by
    simp [String.toList_append]
  rw [pieces, hchars, piecesOf_append_dot hdot, List.map_cons, String.ofList_toList, pieces]

/-- The value that is stored under the first piece of a path is where the store's walk along the
    other pieces begins. -/
theorem Store.exists_set_dotted {head rest : String} (hdot : '.' ∉ head.toList)
    (hpath : Path.IsPath (head ++ "." ++ rest)) (v : Value) (store : Store) :
    ∃ store', store.set head v = .ok store' ∧ ∀ w, store'.get (head ++ "." ++ rest) = .ok w ↔
      Reaches (Path.pieces rest) v w := by
  have hhead : Path.pieces head = [head] := Path.pieces_of_dot_not_mem hdot
  have hdotted : Path.pieces (head ++ "." ++ rest) = Path.pieces head ++ Path.pieces rest := by
    rw [Path.pieces_dotted hdot, hhead]
    rfl
  have hpathHead : Path.IsPath head := hpath.of_subset (hdotted ▸ List.subset_append_left _ _)
  have hset : store.set head v = .ok { root := Keyed.insert head v store.root } :=
    set_of_isPath hpathHead hhead
  refine ⟨_, hset, fun w => ?_⟩
  rw [get_below_set hset hpath hdotted, ← descend_eq_some_iff]
  cases descend (Path.pieces rest) v <;> simp

namespace Evaluation

variable {scope : Scope} {head rest name : String} {m : Value}

/-- No reserved symbol has a dot. -/
theorem reserved?_of_dot_mem (h : '.' ∈ name.toList) : reserved? name = none := by
  unfold reserved?
  split
  case h_4 => rfl
  all_goals exact absurd h (by decide)

/-- A dotted name that is not bound itself, but whose first piece is, is looked up in the value of
    this binding. -/
theorem lookUp_dotted (hdot : '.' ∉ head.toList) (hbound : scope.find? head = some m)
    (hfree : scope.find? (head ++ "." ++ rest) = none) (store : Store) :
    lookUp (head ++ "." ++ rest) scope store = m.memberAlong (Path.pieces rest) := by
  have hreserved : reserved? (head ++ "." ++ rest) = none :=
    reserved?_of_dot_mem (by simp [String.toList_append])
  obtain ⟨key, keys, hrest⟩ := List.exists_cons_of_ne_nil (Path.pieces_ne_nil rest)
  simp only [lookUp, hreserved, hfree, Path.pieces_dotted hdot, hrest, hbound]

theorem outcome_evalAt_symbol (setting : Setting) (levels : Nat) (name : String) (scope : Scope)
    (world : World) :
    (evalAt setting (levels + 1) (.symbol name) scope).outcome world =
      (lookUp name scope world.store, world) :=
  Run.outcome_reading (lookUp name scope) world

/-- A dotted name that is not bound itself, but whose first piece is, is evaluated to what the store
    would answer at this path if the value of the binding had been stored under the first piece, be
    it in any store. Otherwise the error tells where the walk through the value is lost. The outcome
    is the same in every world, whatever its own store holds at the path. -/
theorem dotted_reads_as_stored (hdot : '.' ∉ head.toList) (hbound : scope.find? head = some m)
    (hfree : scope.find? (head ++ "." ++ rest) = none)
    (hpath : Path.IsPath (head ++ "." ++ rest)) :
    ∃ r : Except Error Value,
      (∀ setting levels world,
        (evalAt setting (levels + 1) (.symbol (head ++ "." ++ rest)) scope).outcome world =
          (r, world)) ∧
      (∀ store : Store, ∃ store', store.set head m = .ok store' ∧
        ∀ v, r = .ok v ↔ store'.get (head ++ "." ++ rest) = .ok v) ∧
      ∀ e, r = .error e ↔ m.LostAt (Path.pieces rest) e := by
  refine ⟨m.memberAlong (Path.pieces rest), fun setting levels world => ?_, fun store => ?_,
    fun e => Value.memberAlong_eq_error_iff⟩
  · rw [outcome_evalAt_symbol, lookUp_dotted hdot hbound hfree]
  · obtain ⟨store', hset, hget⟩ := store.exists_set_dotted hdot hpath m
    exact ⟨store', hset, fun v => Value.memberAlong_eq_ok_iff.trans (hget v).symm⟩

/-- The details of a command. -/
def details : Value := .map [("args", .list [.text "a"]), ("command", .text "HELP")]

/-- The scope of a procedure whose parameter is bound to them. -/
def detailed : Scope := { bindings := [("details", details)] }

/-- A world whose store has a number below the arguments of a command. -/
def numbered : World :=
  { store := { root := [("details", .map [("args", .map [("first", .number 1)])])] } }

/-- The arguments that are bound are a list, where no key can be looked up, though the store has a
    number at the very path. Stored under the same name, they are not found at the path either. -/
theorem dotted_reads_as_stored_details :
    (evalAt { program := {} } 1 (.symbol ("details" ++ "." ++ "args.first")) detailed).outcome
        numbered = (.error (.mismatch (.noMapForKey "first" .list) []), numbered) ∧
      ∃ store', Store.titled.set "details" details = .ok store' ∧
        ∀ v, store'.get ("details" ++ "." ++ "args.first") ≠ .ok v := by
  have hdot : '.' ∉ "details".toList := by decide
  have hbound : detailed.find? "details" = some details := rfl
  have hfree : detailed.find? ("details" ++ "." ++ "args.first") = none := by decide
  have hpath : Path.IsPath ("details" ++ "." ++ "args.first") := by decide
  obtain ⟨r, heval, hstored, hlost⟩ := dotted_reads_as_stored hdot hbound hfree hpath
  have hpieces : Path.pieces "args.first" = ["args"] ++ ["first"] := by decide
  have hreaches : Store.Reaches ["args"] details (.list [.text "a"]) := .into rfl .here
  have hr : r = .error (.mismatch (.noMapForKey "first" .list) []) :=
    (hlost _).2 (.noMap hpieces hreaches nofun)
  obtain ⟨store', hset, hget⟩ := hstored Store.titled
  refine ⟨by rw [heval, hr], store', hset, fun v hv => ?_⟩
  rw [← hget v, hr] at hv
  cases hv

end Evaluation

end TurnScript
