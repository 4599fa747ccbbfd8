import TurnScript.Proofs.Store.Path
import TurnScript.Proofs.Value.Ordered
import TurnScript.Proofs.Store

/-!
# When writes fail

A write fails if its path is none, or if a value that is no map stands on its way; then the error
names the first such place. It fails in no other case (`set_classified`).

The store is written in place: the maps on the way are entered one after the other, and one that is
missing is made before it is known how the way goes on (`setInPlace`). Still nothing has to be taken
back when a write fails, since whatever lies below a map that was just made was just made, too, so
that the way is free from there on (`exists_put_nil`). Hence a write that fails leaves the store as
it was (`setInPlace_of_error`), and one that does not leaves the store with the value
(`setInPlace_of_ok`).
-/

namespace TurnScript.Store

variable {store store' : Store} {m m' : Keyed Value} {v w : Value} {segment path conflict : String}
  {behind segments : List String}

/-! ## What stands in the way -/

/-- Along these segments a value is reached that is no map, so that nothing can be written below. -/
def Stops (segments : List String) (v : Value) : Prop :=
  ∃ w, descend segments v = some w ∧ w.kind ≠ .map

/-- In a map, the way goes on in what the map holds. -/
theorem stops_cons_iff {rest : List String} :
    Stops (segment :: rest) (.map m) ↔ ∃ w, Keyed.find? segment m = some w ∧ Stops rest w := by
  simp only [Stops, descend, Option.bind_eq_some_iff]
  constructor
  · rintro ⟨u, ⟨w, hw, hu⟩, hkind⟩
    exact ⟨w, hw, u, hu, hkind⟩
  · rintro ⟨w, hw, u, hu, hkind⟩
    exact ⟨u, ⟨w, hw, hu⟩, hkind⟩

theorem exists_eq_map (h : v.kind = .map) : ∃ m, v = .map m := by
  cases v with
  | map m => exact ⟨m, rfl⟩
  | _ => cases h

theorem not_stops_nil_map : ¬ Stops [] (.map m) := by
  rintro ⟨w, hw, hkind⟩
  cases hw
  exact hkind rfl

/-- What is no map stops at once. -/
theorem stops_iff_of_kind_ne_map (h : v.kind ≠ .map) : Stops segments v ↔ segments = [] := by
  constructor
  · rintro ⟨w, hw, -⟩
    cases segments with
    | nil => rfl
    | cons segment rest =>
      cases v with
      | map entries => exact absurd rfl h
      | _ => cases hw
  · rintro rfl
    exact ⟨v, rfl, h⟩

/-- The way of a write through a map is stopped before its end: not at the map itself, but in what
    it holds. -/
theorem stops_before_end_iff {conflict : List String} :
    (∃ rest, rest ≠ [] ∧ segment :: behind = conflict ++ rest ∧ Stops conflict (.map m)) ↔
      ∃ further w, conflict = segment :: further ∧ Keyed.find? segment m = some w ∧
        ∃ rest, rest ≠ [] ∧ behind = further ++ rest ∧ Stops further w := by
  constructor
  · rintro ⟨rest, hrest, heq, hstops⟩
    rcases List.cons_eq_append_iff.1 heq with ⟨rfl, -⟩ | ⟨further, rfl, hbehind⟩
    · exact absurd hstops not_stops_nil_map
    · obtain ⟨w, hw, hstops⟩ := stops_cons_iff.1 hstops
      exact ⟨further, w, rfl, hw, rest, hrest, hbehind, hstops⟩
  · rintro ⟨further, w, rfl, hw, rest, hrest, rfl, hstops⟩
    exact ⟨rest, hrest, rfl, stops_cons_iff.2 ⟨w, hw, hstops⟩⟩

/-! ## Writes into maps -/

section

variable {next : String} {further : List String} {inner : Keyed Value}

/-- Where a map holds a map, a write goes on in it. -/
theorem put_of_map (h : Keyed.find? segment m = some (.map inner)) :
    put segment (next :: further) v m =
      match put next further v inner with
      | .ok inner' => .ok (Keyed.insert segment (.map inner') m)
      | .error conflict => .error (segment :: conflict) := by
  rw [put, h]
  rfl

/-- Where a map holds nothing, a write goes on in an empty map. -/
theorem put_of_none (h : Keyed.find? segment m = none) :
    put segment (next :: further) v m =
      match put next further v [] with
      | .ok inner => .ok (Keyed.insert segment (.map inner) m)
      | .error conflict => .error (segment :: conflict) := by
  rw [put, h]
  rfl

/-- Where a map holds anything else, a write fails. -/
theorem put_of_kind_ne_map (h : Keyed.find? segment m = some w) (hw : w.kind ≠ .map) :
    put segment (next :: further) v m = .error [segment] := by
  rw [put, h]
  cases w with
  | map entries => exact absurd rfl hw
  | _ => rfl

end

/-- Below a map that was just made, nothing stands in the way. -/
theorem exists_put_nil (segment : String) (behind : List String) (v : Value) :
    ∃ m, put segment behind v [] = .ok m := by
  induction behind generalizing segment with
  | nil => exact ⟨_, rfl⟩
  | cons next further ih =>
    obtain ⟨inner, hinner⟩ := ih next
    exact ⟨_, by rw [put_of_none rfl, hinner]⟩

/-- A write that does not fail goes on in the map of its first segment, or in an empty one if there
    is none. -/
theorem exists_of_put_cons_ok {next : String} {further : List String}
    (h : put segment (next :: further) v m = .ok m') :
    ∃ inner inner', (Keyed.find? segment m = some (.map inner) ∨
        Keyed.find? segment m = none ∧ inner = []) ∧
      put next further v inner = .ok inner' ∧ Keyed.insert segment (.map inner') m = m' := by
  cases hfind : Keyed.find? segment m with
  | none =>
    obtain ⟨inner', hinner⟩ := exists_put_nil next further v
    rw [put_of_none hfind, hinner] at h
    exact ⟨[], inner', .inr ⟨rfl, rfl⟩, hinner, Except.ok.inj h⟩
  | some w =>
    by_cases hw : w.kind = .map
    · obtain ⟨inner, rfl⟩ := exists_eq_map hw
      rw [put_of_map hfind] at h
      cases hput : put next further v inner with
      | error conflict =>
        rw [hput] at h
        cases h
      | ok inner' =>
        rw [hput] at h
        exact ⟨inner, inner', .inl rfl, hput, Except.ok.inj h⟩
    · rw [put_of_kind_ne_map hfind hw] at h
      cases h

/-- A write that fails does so in the map of its first segment, or at what is there and no map. -/
theorem exists_of_put_cons_error {next : String} {further conflict : List String}
    (h : put segment (next :: further) v m = .error conflict) :
    (∃ inner c, Keyed.find? segment m = some (.map inner) ∧ put next further v inner = .error c ∧
        conflict = segment :: c) ∨
      ∃ w, Keyed.find? segment m = some w ∧ w.kind ≠ .map ∧ conflict = [segment] := by
  cases hfind : Keyed.find? segment m with
  | none =>
    obtain ⟨inner', hinner⟩ := exists_put_nil next further v
    rw [put_of_none hfind, hinner] at h
    cases h
  | some w =>
    by_cases hw : w.kind = .map
    · obtain ⟨inner, rfl⟩ := exists_eq_map hw
      rw [put_of_map hfind] at h
      cases hput : put next further v inner with
      | error c =>
        rw [hput] at h
        exact .inl ⟨inner, c, rfl, hput, (Except.error.inj h).symm⟩
      | ok inner' =>
        rw [hput] at h
        cases h
    · rw [put_of_kind_ne_map hfind hw] at h
      exact .inr ⟨w, rfl, hw, (Except.error.inj h).symm⟩

/-- A write fails exactly if something stands on its way before the end, and the error leads
    there. -/
theorem put_eq_error_iff {conflict : List String} :
    put segment behind v m = .error conflict ↔
      ∃ rest, rest ≠ [] ∧ segment :: behind = conflict ++ rest ∧ Stops conflict (.map m) := by
  rw [stops_before_end_iff]
  induction behind generalizing segment m conflict with
  | nil =>
    constructor
    · intro h
      cases h
    · rintro ⟨further, w, -, -, rest, hrest, heq, -⟩
      exact absurd (List.append_eq_nil_iff.1 heq.symm).2 hrest
  | cons next further ih =>
    cases hfind : Keyed.find? segment m with
    | none =>
      obtain ⟨inner, hinner⟩ := exists_put_nil next further v
      simp [put_of_none hfind, hinner]
    | some w =>
      by_cases hw : w.kind = .map
      · -- the way goes on in a map, where the error arises if there is one
        obtain ⟨inner, rfl⟩ := exists_eq_map hw
        have hinner {c : List String} : put next further v inner = .error c ↔
            ∃ rest, rest ≠ [] ∧ next :: further = c ++ rest ∧ Stops c (.map inner) :=
          ih.trans stops_before_end_iff.symm
        simp only [Option.some.injEq, exists_and_left, exists_eq_left', ← hinner]
        rw [put_of_map hfind]
        cases put next further v inner with
        | ok inner' => simp
        | error c => simp [eq_comm]
      · -- the way ends here, before the segments that are left
        rw [put_of_kind_ne_map hfind hw]
        simp only [Option.some.injEq, exists_and_left, exists_eq_left', stops_iff_of_kind_ne_map hw]
        constructor
        · intro h
          cases h
          exact ⟨[], rfl, _, List.cons_ne_nil _ _, rfl, rfl⟩
        · rintro ⟨c, rfl, rest, -, -, rfl⟩
          rfl

/-! ## Writes in place -/

/-- The write of `put` made in place: whether it fails, and the map that it leaves in any case. The
    map of the next segment is made if there is nothing, and entered if it is a map. -/
def putInPlace (segment : String) (behind : List String) (v : Value) (m : Keyed Value) :
    Except (List String) Unit × Keyed Value :=
  match behind with
  | [] => (.ok (), Keyed.insert segment v m)
  | next :: further =>
    let made := if (Keyed.find? segment m).isSome then m else Keyed.insert segment (.map []) m
    match Keyed.find? segment made with
    | some (.map inner) =>
      let (result, inner) := putInPlace next further v inner
      (result.mapError (segment :: ·), Keyed.replace segment (.map inner) made)
    | _ => (.error [segment], made)

/-- The write of `set` made in place: whether it fails, and the store that it leaves in any case. -/
def setInPlace (path : String) (v : Value) (store : Store) : Except Error Unit × Store :=
  match Path.segments? path with
  | none | some [] => (.error (.invalidStatePath path), store)
  | some (segment :: behind) =>
    let (result, root) := putInPlace segment behind v store.root
    (result.mapError fun conflict => .statePathConflict (Path.ofSegments conflict), { root })

section

variable {next : String} {further : List String} {inner : Keyed Value}

/-- A map that is there is entered. -/
theorem putInPlace_of_map (h : Keyed.find? segment m = some (.map inner)) :
    putInPlace segment (next :: further) v m =
      ((putInPlace next further v inner).1.mapError (segment :: ·),
        Keyed.replace segment (.map (putInPlace next further v inner).2) m) := by
  simp only [putInPlace, h, Option.isSome_some, if_true]

/-- A map that is missing is made and entered. -/
theorem putInPlace_of_none (h : Keyed.find? segment m = none) :
    putInPlace segment (next :: further) v m =
      ((putInPlace next further v []).1.mapError (segment :: ·),
        Keyed.insert segment (.map (putInPlace next further v []).2) m) := by
  simp only [putInPlace, h, Option.isSome_none, Bool.false_eq_true, if_false,
    Keyed.find?_insert_self, Keyed.replace_insert]

/-- What is there and no map is not entered. -/
theorem putInPlace_of_kind_ne_map (h : Keyed.find? segment m = some w) (hw : w.kind ≠ .map) :
    putInPlace segment (next :: further) v m = (.error [segment], m) := by
  simp only [putInPlace, h, Option.isSome_some, if_true]
  cases w with
  | map entries => exact absurd rfl hw
  | _ => rfl

end

/-- A write that fails has changed nothing: it has only entered maps that were there. -/
theorem putInPlace_of_error {conflict : List String}
    (h : put segment behind v m = .error conflict) :
    putInPlace segment behind v m = (.error conflict, m) := by
  induction behind generalizing segment m conflict with
  | nil => cases h
  | cons next further ih =>
    rcases exists_of_put_cons_error h with ⟨inner, c, hfind, hput, rfl⟩ | ⟨w, hfind, hw, rfl⟩
    · rw [putInPlace_of_map hfind, ih hput, Keyed.replace_eq_self hfind]
      rfl
    · exact putInPlace_of_kind_ne_map hfind hw

/-- A write that does not fail leaves the same map in place, if the maps are in order. -/
theorem putInPlace_of_ok (h : put segment behind v m = .ok m') :
    (putInPlace segment behind v m).1 = .ok () ∧
      (Value.Ordered (.map m) → (putInPlace segment behind v m).2 = m') := by
  induction behind generalizing segment m m' with
  | nil =>
    cases h
    exact ⟨rfl, fun _ => rfl⟩
  | cons next further ih =>
    obtain ⟨inner, inner', hinner, hput, rfl⟩ := exists_of_put_cons_ok h
    obtain ⟨hok, hplace⟩ := ih hput
    rcases hinner with hfind | ⟨hfind, rfl⟩
    · rw [putInPlace_of_map hfind, hok]
      refine ⟨rfl, fun hm => ?_⟩
      rw [hplace (hm.find? hfind), Keyed.insert_eq_replace hm.sorted hfind]
    · rw [putInPlace_of_none hfind, hok, hplace Value.ordered_empty]
      exact ⟨rfl, fun _ => rfl⟩

/-! ## Stores whose maps are in order -/

theorem ordered_put (hm : Value.Ordered (.map m)) (hv : v.Ordered)
    (h : put segment behind v m = .ok m') : Value.Ordered (.map m') := by
  induction behind generalizing segment m m' with
  | nil =>
    cases h
    exact hm.insert hv
  | cons next further ih =>
    obtain ⟨inner, inner', hinner, hput, rfl⟩ := exists_of_put_cons_ok h
    refine hm.insert (ih ?_ hput)
    rcases hinner with hfind | ⟨-, rfl⟩
    · exact hm.find? hfind
    · exact Value.ordered_empty

/-- All maps in the store are in order. -/
def Ordered (store : Store) : Prop := store.snapshot.Ordered

/-- A store in order stays in order. -/
theorem Ordered.set (hstore : store.Ordered) (hv : v.Ordered)
    (h : store.set path v = .ok store') : store'.Ordered := by
  obtain ⟨segment, behind, root, -, hput, rfl⟩ := exists_put_of_set h
  exact ordered_put hstore hv hput

/-! ## Writes to the store -/

/-- A write goes through the segments of its path. -/
theorem set_of_isPath (hpath : Path.IsPath path) (hpieces : Path.pieces path = segment :: behind) :
    store.set path v =
      match put segment behind v store.root with
      | .ok root => .ok { root }
      | .error conflict => .error (.statePathConflict (Path.ofSegments conflict)) := by
  cases hput : put segment behind v store.root <;>
    simp only [set, Path.segments?_of_isPath hpath, hpieces, hput]

theorem set_of_not_isPath (hpath : ¬ Path.IsPath path) :
    store.set path v = .error (.invalidStatePath path) := by
  rw [set, Path.segments?_of_not_isPath hpath]

theorem get_eq_ok_iff :
    store.get path = .ok v ↔
      Path.IsPath path ∧ descend (Path.pieces path) (.map store.root) = some v := by
  rw [get]
  by_cases hpath : Path.IsPath path
  · rw [Path.segments?_of_isPath hpath, Option.bind_some]
    cases descend (Path.pieces path) (.map store.root) <;> simp [hpath]
  · simp [Path.segments?_of_not_isPath hpath, hpath]

/-- The store holds a value that is no map at this path, so that nothing can be written below. -/
def Blocks (store : Store) (path : String) : Prop := ∃ v, store.get path = .ok v ∧ v.kind ≠ .map

theorem blocks_iff :
    store.Blocks path ↔ Path.IsPath path ∧ Stops (Path.pieces path) (.map store.root) := by
  simp only [Blocks, Stops, get_eq_ok_iff, and_assoc, exists_and_left]

/-- A write fails with a conflict exactly if the store blocks its way, and the conflict is named by
    the path that does. -/
theorem set_eq_conflict_iff :
    store.set path v = .error (.statePathConflict conflict) ↔
      Path.IsPath path ∧ Path.Above conflict path ∧ store.Blocks conflict := by
  by_cases hpath : Path.IsPath path
  · obtain ⟨segment, behind, hpieces⟩ := List.exists_cons_of_ne_nil (Path.pieces_ne_nil path)
    rw [set_of_isPath hpath hpieces]
    constructor
    · intro h
      cases hput : put segment behind v store.root with
      | ok root =>
        rw [hput] at h
        cases h
      | error segments =>
        obtain ⟨rest, hrest, heq, hstops⟩ := put_eq_error_iff.1 hput
        have hne : segments ≠ [] := by
          rintro rfl
          exact not_stops_nil_map hstops
        rw [← hpieces] at heq
        rw [hput] at h
        cases h
        have habove := Path.above_ofSegments hne hrest heq
        have hblocked : Path.pieces (Path.ofSegments segments) = segments :=
          Path.pieces_ofSegments_of_subset hne (heq ▸ List.subset_append_left segments rest)
        refine ⟨hpath, habove, blocks_iff.2 ⟨hpath.of_subset habove.1.subset, ?_⟩⟩
        rwa [hblocked]
    · rintro ⟨-, habove, hblocks⟩
      obtain ⟨rest, hrest, heq⟩ := habove.exists_append
      rw [hpieces] at heq
      rw [put_eq_error_iff.2 ⟨rest, hrest, heq, (blocks_iff.1 hblocks).2⟩]
      simp only [Path.ofSegments_pieces]
  · simp [set_of_not_isPath hpath, hpath]

/-- A write at a path fails in no other way. -/
theorem set_cases (hpath : Path.IsPath path) (store : Store) (v : Value) :
    (∃ conflict, store.set path v = .error (.statePathConflict conflict)) ∨
      ∃ store', store.set path v = .ok store' := by
  obtain ⟨segment, behind, hpieces⟩ := List.exists_cons_of_ne_nil (Path.pieces_ne_nil path)
  rw [set_of_isPath hpath hpieces]
  cases put segment behind v store.root with
  | ok root => exact .inr ⟨_, rfl⟩
  | error segments => exact .inl ⟨_, rfl⟩

theorem set_eq_invalid_iff :
    store.set path v = .error (.invalidStatePath path) ↔ ¬ Path.IsPath path := by
  refine ⟨fun h hpath => ?_, set_of_not_isPath⟩
  rcases set_cases hpath store v with ⟨conflict, hset⟩ | ⟨store', hset⟩ <;> simp [hset] at h

theorem exists_set_eq_ok_iff :
    (∃ store', store.set path v = .ok store') ↔
      Path.IsPath path ∧ ¬ ∃ above, Path.Above above path ∧ store.Blocks above := by
  constructor
  · rintro ⟨store', hset⟩
    have hpath : Path.IsPath path := Decidable.byContradiction fun hnot => by
      simp [set_of_not_isPath hnot] at hset
    refine ⟨hpath, fun ⟨above, habove, hblocks⟩ => ?_⟩
    simp [set_eq_conflict_iff.2 ⟨hpath, habove, hblocks⟩] at hset
  · rintro ⟨hpath, hfree⟩
    refine (set_cases hpath store v).resolve_left fun ⟨conflict, hset⟩ => hfree ?_
    exact ⟨conflict, (set_eq_conflict_iff.1 hset).2⟩

/-- A write that fails leaves the store as it was. -/
theorem setInPlace_of_error {e : Error} (h : store.set path v = .error e) :
    store.setInPlace path v = (.error e, store) := by
  by_cases hpath : Path.IsPath path
  · obtain ⟨segment, behind, hpieces⟩ := List.exists_cons_of_ne_nil (Path.pieces_ne_nil path)
    rw [set_of_isPath hpath hpieces] at h
    simp only [setInPlace, Path.segments?_of_isPath hpath, hpieces]
    cases hput : put segment behind v store.root with
    | ok root =>
      rw [hput] at h
      cases h
    | error conflict =>
      rw [hput] at h
      cases h
      rw [putInPlace_of_error hput]
      rfl
  · rw [set_of_not_isPath hpath] at h
    cases h
    simp only [setInPlace, Path.segments?_of_not_isPath hpath]

/-- A write that does not fail leaves the same store in place, if the maps are in order. -/
theorem setInPlace_of_ok (h : store.set path v = .ok store') :
    (store.setInPlace path v).1 = .ok () ∧
      (store.Ordered → (store.setInPlace path v).2 = store') := by
  obtain ⟨segment, behind, root, hsegments, hput, rfl⟩ := exists_put_of_set h
  obtain ⟨hok, hplace⟩ := putInPlace_of_ok hput
  simp only [setInPlace, hsegments, hok]
  exact ⟨rfl, fun hstore => by rw [hplace hstore]⟩

/-- The store blocks the way of `path` at `conflict`, and not before. -/
structure FirstBlock (store : Store) (path conflict : String) : Prop where
  above : Path.Above conflict path
  blocks : store.Blocks conflict
  first : ∀ other, Path.Above other path → store.Blocks other →
    (Path.pieces conflict).length ≤ (Path.pieces other).length

/-- A write fails if its path is none; otherwise it fails if the store holds a value that is no map
    above the path, with the first such place as its error; otherwise it does not fail. Made in
    place, it changes nothing if it fails, and else it leaves the same store. -/
theorem set_classified (store : Store) (path : String) (v : Value) :
    (store.set path v = .error (.invalidStatePath path) ↔ ¬ Path.IsPath path) ∧
      ((∃ conflict, store.set path v = .error (.statePathConflict conflict)) ↔
        Path.IsPath path ∧ ∃ above, Path.Above above path ∧ store.Blocks above) ∧
      (∀ conflict, store.set path v = .error (.statePathConflict conflict) →
        store.FirstBlock path conflict) ∧
      ((∃ store', store.set path v = .ok store') ↔
        Path.IsPath path ∧ ¬ ∃ above, Path.Above above path ∧ store.Blocks above) ∧
      (∀ e, store.set path v = .error e → store.setInPlace path v = (.error e, store)) ∧
      ∀ store', store.set path v = .ok store' → (store.setInPlace path v).1 = .ok () ∧
        (store.Ordered → (store.setInPlace path v).2 = store') := by
  refine ⟨set_eq_invalid_iff, ?_, fun conflict h => ?_, exists_set_eq_ok_iff,
    fun _ => setInPlace_of_error, fun _ => setInPlace_of_ok⟩
  · simp only [set_eq_conflict_iff, exists_and_left]
  · -- a write has one error, so no other place on its way is blocked
    obtain ⟨hpath, habove, hblocks⟩ := set_eq_conflict_iff.1 h
    refine ⟨habove, hblocks, fun other hother hstops => ?_⟩
    rw [set_eq_conflict_iff.2 ⟨hpath, hother, hstops⟩] at h
    cases h
    exact Nat.le_refl _

/-- The empty text is no path, and neither is one with a dot at its end. -/
example : ¬ Path.IsPath "" ∧ ¬ Path.IsPath "proj." := by decide

/-- A store with the title of a project. -/
def titled : Store := { root := [("proj", .map [("title", .text "Bridge")])] }

theorem ordered_titled : titled.Ordered :=
  .map (List.pairwise_singleton _ _) fun _ hentry =>
    List.mem_singleton.1 hentry ▸ .map (List.pairwise_singleton _ _) fun _ hentry =>
      List.mem_singleton.1 hentry ▸ .text _

/-- Nothing can be written below the title, and what was tried leaves no trace. Beside the title
    there is room for a plan. -/
theorem set_classified_titled :
    titled.FirstBlock "proj.title.draft.first" "proj.title" ∧
      titled.setInPlace "proj.title.draft.first" .absent =
        (.error (.statePathConflict "proj.title"), titled) ∧
      titled.Ordered ∧ (titled.setInPlace "proj.plan.first" .absent).2 =
        { root := [("proj", .map [("plan", .map [("first", .absent)]),
          ("title", .text "Bridge")])] } := by
  have hdraft : titled.set "proj.title.draft.first" .absent =
      .error (.statePathConflict "proj.title") :=
    set_eq_conflict_iff.2 ⟨by decide, by decide, .text "Bridge",
      get_eq_ok_iff.2 ⟨by decide, by decide⟩, nofun⟩
  have hplan : Path.pieces "proj.plan.first" = ["proj", "plan", "first"] := by decide
  obtain ⟨-, -, hfirst, -, herror, -⟩ := titled.set_classified "proj.title.draft.first" .absent
  obtain ⟨-, -, -, -, -, hok⟩ := titled.set_classified "proj.plan.first" .absent
  refine ⟨hfirst _ hdraft, herror _ hdraft, ordered_titled, (hok _ ?_).2 ordered_titled⟩
  rw [set_of_isPath (by decide) hplan]
  rfl

end TurnScript.Store
