import TurnScript.Proofs.Store.Write

/-!
# Reads after a write

What the store answers after a write is told by how the two paths lie to each other
(`get_after_set`): at the path of the write it is the value; below, what is reached in the value;
above, the map that was there, with the write carried out in it; and elsewhere it is what it was.
-/

namespace TurnScript.Store

variable {store store' : Store} {m m' : Keyed Value} {v w : Value} {segment path other : String}
  {behind segments : List String}

/-! ## What is reached along segments -/

/-- Along these segments `w` is reached from the value, through one map after the other. -/
inductive Reaches : List String → Value → Value → Prop
  | here {v : Value} : Reaches [] v v
  | into {segment : String} {rest : List String} {m : Keyed Value} {inner w : Value} :
    Keyed.find? segment m = some inner → Reaches rest inner w → Reaches (segment :: rest) (.map m) w

theorem descend_eq_some_iff : descend segments v = some w ↔ Reaches segments v w := by
  constructor
  · intro h
    induction segments generalizing v with
    | nil =>
      cases h
      exact .here
    | cons segment rest ih =>
      cases v with
      | map m =>
        obtain ⟨inner, hfind, hinner⟩ := Option.bind_eq_some_iff.1 h
        exact .into hfind (ih hinner)
      | _ => cases h
  · intro h
    induction h with
    | here => rfl
    | into hfind _ ih => rw [descend, hfind, Option.bind_some, ih]

/-- What is reached along segments in two parts is reached part by part. -/
theorem descend_append (front behind : List String) (v : Value) :
    descend (front ++ behind) v = (descend front v).bind (descend behind) := by
  induction front generalizing v with
  | nil => rfl
  | cons segment rest ih =>
    cases v with
    | map m =>
      rw [List.cons_append, descend, descend, Option.bind_assoc]
      exact Option.bind_congr fun w _ => ih w
    | _ => rfl

/-! ## Reads of maps after a write -/

/-- At the end of its way, a write has put its value. -/
theorem descend_put (h : put segment behind v m = .ok m') :
    descend (segment :: behind) (.map m') = some v := by
  induction behind generalizing segment m m' with
  | nil =>
    cases h
    rw [descend, Keyed.find?_insert_self]
    rfl
  | cons next further ih =>
    obtain ⟨inner, inner', -, hput, rfl⟩ := exists_of_put_cons_ok h
    rw [descend, Keyed.find?_insert_self, Option.bind_some, ih hput]

/-- On its way, a write has gone on in the map that was there, or in an empty one if there was
    none. -/
theorem exists_descend_of_put {front rest : List String} {next : String}
    (h : put segment (front ++ next :: rest) v m = .ok m') :
    ∃ inner inner', (descend (segment :: front) (.map m) = some (.map inner) ∨
        descend (segment :: front) (.map m) = none ∧ inner = []) ∧
      put next rest v inner = .ok inner' ∧
      descend (segment :: front) (.map m') = some (.map inner') := by
  induction front generalizing segment m m' with
  | nil =>
    obtain ⟨inner, inner', hinner, hput, rfl⟩ := exists_of_put_cons_ok h
    refine ⟨inner, inner', ?_, hput, ?_⟩
    · simpa only [descend, Option.bind_fun_some] using hinner
    · rw [descend, Keyed.find?_insert_self]
      rfl
  | cons first front ih =>
    obtain ⟨entered, entered', hentered, hput, rfl⟩ := exists_of_put_cons_ok h
    obtain ⟨inner, inner', hinner, hwritten, hread⟩ := ih hput
    refine ⟨inner, inner', ?_, hwritten, ?_⟩
    · rcases hentered with hfind | ⟨hfind, rfl⟩
      · rwa [descend, hfind, Option.bind_some]
      · -- nothing is reached in an empty map, so the inner one is empty, too
        rw [descend_nil_map (List.cons_ne_nil _ _)] at hinner
        rw [descend, hfind, Option.bind_none]
        exact .inr ⟨rfl, (hinner.resolve_left (Option.some_ne_none _).symm).2⟩
    · rw [descend, Keyed.find?_insert_self, Option.bind_some, hread]

/-! ## Reads of the store -/

theorem get_of_isPath (h : Path.IsPath path) :
    store.get path =
      match descend (Path.pieces path) (.map store.root) with
      | some v => .ok v
      | none => .error (.stateKeyNotFound path) := by
  cases hread : descend (Path.pieces path) (.map store.root) <;>
    simp only [get, Path.segments?_of_isPath h, Option.bind_some, hread]

theorem get_of_not_isPath (h : ¬ Path.IsPath path) :
    store.get path = .error (.stateKeyNotFound path) := by
  rw [get, Path.segments?_of_not_isPath h, Option.bind_none]

/-- A write at a path was made along its pieces. -/
theorem exists_put_pieces (h : store.set path v = .ok store') :
    ∃ segment behind root, Path.IsPath path ∧ Path.pieces path = segment :: behind ∧
      put segment behind v store.root = .ok root ∧ store' = { root } := by
  obtain ⟨segment, behind, root, hsegments, hput, rfl⟩ := exists_put_of_set h
  obtain ⟨hpath, hpieces⟩ := Path.segments?_eq_some_iff.1 hsegments
  exact ⟨segment, behind, root, hpath, hpieces, hput, rfl⟩

/-- Below the path of a write, the store answers with what is reached in the value. -/
theorem get_below_set (h : store.set path v = .ok store') (hother : Path.IsPath other)
    {rest : List String} (hrest : Path.pieces other = Path.pieces path ++ rest) :
    store'.get other =
      match descend rest v with
      | some w => .ok w
      | none => .error (.stateKeyNotFound other) := by
  obtain ⟨segment, behind, root, -, hpieces, hput, rfl⟩ := exists_put_pieces h
  rw [get_of_isPath hother, hrest, hpieces, descend_append, descend_put hput, Option.bind_some]

/-- Above the path of a write, the store answers with the map that was there, or an empty one if
    there was nothing, in which the write was carried out. -/
theorem get_above_set (h : store.set path v = .ok store') {rest : List String} (hne : rest ≠ [])
    (hrest : Path.pieces path = Path.pieces other ++ rest) :
    ∃ m m', (store.get other = .ok (.map m) ∨
        store.get other = .error (.stateKeyNotFound other) ∧ m = []) ∧
      ({ root := m } : Store).set (Path.ofSegments rest) v = .ok { root := m' } ∧
      store'.get other = .ok (.map m') := by
  obtain ⟨segment, behind, root, hpath, hpieces, hput, rfl⟩ := exists_put_pieces h
  obtain ⟨first, front, hfront⟩ := List.exists_cons_of_ne_nil (Path.pieces_ne_nil other)
  obtain ⟨next, further, rfl⟩ := List.exists_cons_of_ne_nil hne
  have hother : Path.IsPath other :=
    hpath.of_subset (hrest ▸ List.subset_append_left _ _)
  have hbehind : Path.pieces (Path.ofSegments (next :: further)) = next :: further :=
    Path.pieces_ofSegments_of_subset hne (hrest ▸ List.subset_append_right _ _)
  have hbelow : Path.IsPath (Path.ofSegments (next :: further)) :=
    hpath.of_subset (by rw [hbehind, hrest]; exact List.subset_append_right _ _)
  obtain ⟨rfl, rfl⟩ : segment = first ∧ behind = front ++ next :: further := by
    simpa [hpieces, hfront] using hrest
  obtain ⟨inner, inner', hinner, hwritten, hread⟩ := exists_descend_of_put hput
  refine ⟨inner, inner', ?_, ?_, ?_⟩
  · rw [get_of_isPath hother, hfront]
    exact hinner.imp (fun h => by rw [h]) fun ⟨h, hnil⟩ => ⟨by rw [h], hnil⟩
  · rw [set_of_isPath hbelow hbehind, hwritten]
  · rw [get_of_isPath hother, hfront, hread]

/-- Neither path leads along the other, so they do not overlap. -/
theorem not_overlaps_of_not_isPrefix (hwritten : ¬ Path.pieces path <+: Path.pieces other)
    (hread : ¬ Path.pieces other <+: Path.pieces path) : ¬ Path.Overlaps path other := by
  rintro ⟨segments, hsegments, others, hothers, hor⟩
  obtain ⟨-, rfl⟩ := Path.segments?_eq_some_iff.1 hsegments
  obtain ⟨-, rfl⟩ := Path.segments?_eq_some_iff.1 hothers
  exact hor.elim hwritten hread

/-- After a write the store answers at any path: nothing if it is none; the value at the path of the
    write; what is reached in the value below; the map that was there, with the value written in it,
    above; and what it answered before elsewhere, be it a value or an error. -/
theorem get_after_set (h : store.set path v = .ok store') (other : String) :
    (¬ Path.IsPath other → store'.get other = .error (.stateKeyNotFound other)) ∧
      (other = path → store'.get other = .ok v) ∧
      (∀ rest, Path.IsPath other → Path.pieces other = Path.pieces path ++ rest →
        (∀ w, store'.get other = .ok w ↔ Reaches rest v w) ∧
          ((¬ ∃ w, Reaches rest v w) → store'.get other = .error (.stateKeyNotFound other))) ∧
      (∀ rest, rest ≠ [] → Path.pieces path = Path.pieces other ++ rest →
        ∃ m m', (store.get other = .ok (.map m) ∨
            store.get other = .error (.stateKeyNotFound other) ∧ m = []) ∧
          ({ root := m } : Store).set (Path.ofSegments rest) v = .ok { root := m' } ∧
          store'.get other = .ok (.map m')) ∧
      (¬ Path.pieces path <+: Path.pieces other → ¬ Path.pieces other <+: Path.pieces path →
        store'.get other = store.get other) := by
  refine ⟨get_of_not_isPath, ?_, fun rest hother hrest => ?_,
    fun rest hne hrest => get_above_set h hne hrest,
    fun hwritten hread => get_of_set h (not_overlaps_of_not_isPrefix hwritten hread)⟩
  · rintro rfl
    obtain ⟨segment, behind, root, hpath, -⟩ := exists_put_pieces h
    rw [get_below_set h hpath (List.append_nil _).symm]
    rfl
  · rw [get_below_set h hother hrest]
    simp only [← descend_eq_some_iff]
    cases descend rest v <;> simp

/-- After a plan was put beside the title, its first step is found in it, nothing is found below
    that, and the title is as it was. -/
theorem get_after_set_titled :
    ∃ store', titled.set "proj.plan" (.map [("first", .number 1)]) = .ok store' ∧
      store'.get "proj.plan" = .ok (.map [("first", .number 1)]) ∧
      store'.get "proj.plan.first" = .ok (.number 1) ∧
      store'.get "proj.title" = titled.get "proj.title" := by
  have hplan : Path.pieces "proj.plan" = ["proj", "plan"] := by decide
  have hset : titled.set "proj.plan" (.map [("first", .number 1)]) = .ok { root :=
      [("proj", .map [("plan", .map [("first", .number 1)]), ("title", .text "Bridge")])] } := by
    rw [set_of_isPath (by decide) hplan]
    rfl
  obtain ⟨-, -, hbelow, -⟩ := get_after_set hset "proj.plan.first"
  obtain ⟨-, -, -, -, hbeside⟩ := get_after_set hset "proj.title"
  exact ⟨_, hset, (get_after_set hset "proj.plan").2.1 rfl,
    ((hbelow ["first"] (by decide) (by decide)).1 _).2 (.into rfl .here),
    hbeside (by decide) (by decide)⟩

end TurnScript.Store
