import TurnScript.Proofs.Store.Read

/-!
# Two writes

Writes at two paths, neither of which leads along the other, do not disturb each other: each of them
answers as it does alone, and they can be made in either order (`put_comm`). A write at a path above
that of another one, or at the same path, leaves nothing of the other (`put_of_put_below`).

The maps on the way that the two paths share are made by whichever write comes first, so that the
stores are the same down to the last map, and not only for those who read them.
-/

namespace TurnScript.Store

variable {store store' : Store} {m m₁ m₂ : Keyed Value} {v w : Value}
  {segment other path conflict : String} {behind others : List String}

/-! ## Writes into maps -/

/-- The map in which a write goes on behind a segment: the one that is there, or an empty one. -/
def Enters (segment : String) (m inner : Keyed Value) : Prop :=
  Keyed.find? segment m = some (.map inner) ∨ Keyed.find? segment m = none ∧ inner = []

section

variable {inner inner' : Keyed Value} {next : String} {further : List String}

theorem enters_insert_self : Enters segment (Keyed.insert segment (.map inner) m) inner :=
  .inl (Keyed.find?_insert_self _ _ _)

theorem Enters.insert_of_ne (h : Enters segment m inner) (hne : segment ≠ other) (u : Value) :
    Enters segment (Keyed.insert other u m) inner := by
  rwa [Enters, Keyed.find?_insert_of_ne hne]

/-- There is one map only in which a write can go on. -/
theorem Enters.eq (h : Enters segment m inner) (h' : Enters segment m inner') :
    inner = inner' := by
  rcases h with hsome | ⟨hnone, rfl⟩ <;> rcases h' with hsome' | ⟨hnone', rfl⟩ <;> simp_all

theorem Enters.put (h : Enters segment m inner) :
    put segment (next :: further) v m =
      match put next further v inner with
      | .ok inner' => .ok (Keyed.insert segment (.map inner') m)
      | .error conflict => .error (segment :: conflict) := by
  rcases h with hsome | ⟨hnone, rfl⟩
  · exact put_of_map hsome
  · exact put_of_none hnone

theorem Enters.put_eq_ok (h : Enters segment m inner)
    (hput : Store.put next further v inner = .ok inner') :
    Store.put segment (next :: further) v m = .ok (Keyed.insert segment (.map inner') m) := by
  rw [h.put, hput]

end

/-- A write into a map changes it at the first segment. -/
theorem exists_insert_of_put (h : put segment behind v m = .ok m₁) :
    ∃ u, m₁ = Keyed.insert segment u m := by
  cases behind with
  | nil =>
    cases h
    exact ⟨v, rfl⟩
  | cons next further =>
    obtain ⟨inner, inner', -, -, rfl⟩ := exists_of_put_cons_ok h
    exact ⟨.map inner', rfl⟩

/-- What stands at another segment can be changed before a write or after it. -/
theorem put_insert_of_ne (hne : segment ≠ other) (u : Value) (h : put segment behind v m = .ok m₁) :
    put segment behind v (Keyed.insert other u m) = .ok (Keyed.insert other u m₁) := by
  cases behind with
  | nil =>
    cases h
    rw [put, Keyed.insert_comm hne]
  | cons next further =>
    obtain ⟨inner, inner', hinner, hput, rfl⟩ := exists_of_put_cons_ok h
    rw [Enters.put_eq_ok (Enters.insert_of_ne hinner hne u) hput, Keyed.insert_comm hne]

/-- Two writes that do not fail, and neither of which leads along the other, do not fail after each
    other either, and in both orders the map becomes the same. -/
theorem put_comm (h₁ : put segment behind v m = .ok m₁) (h₂ : put other others w m = .ok m₂)
    (hfirst : ¬ segment :: behind <+: other :: others)
    (hsecond : ¬ other :: others <+: segment :: behind) :
    ∃ m', put other others w m₁ = .ok m' ∧ put segment behind v m₂ = .ok m' := by
  induction behind generalizing segment other others m m₁ m₂ with
  | nil =>
    have hne : segment ≠ other := by
      rintro rfl
      exact hfirst (List.prefix_append [segment] others)
    cases h₁
    obtain ⟨u, rfl⟩ := exists_insert_of_put h₂
    exact ⟨_, put_insert_of_ne hne.symm v h₂, by rw [put, Keyed.insert_comm hne]⟩
  | cons next further ih =>
    by_cases hne : segment = other
    · subst hne
      cases others with
      | nil => exact absurd (List.prefix_append [segment] (next :: further)) hsecond
      | cons next' further' =>
        -- both go on in the same inner map, which the first of them makes if there is none
        rw [List.prefix_cons_inj] at hfirst hsecond
        obtain ⟨inner, inner₁, hinner, hput₁, rfl⟩ := exists_of_put_cons_ok h₁
        obtain ⟨inner', inner₂, hinner', hput₂, rfl⟩ := exists_of_put_cons_ok h₂
        obtain rfl := Enters.eq hinner hinner'
        obtain ⟨inner', hput₂₁, hput₁₂⟩ := ih hput₁ hput₂ hfirst hsecond
        refine ⟨Keyed.insert segment (.map inner') m, ?_, ?_⟩
        · rw [enters_insert_self.put_eq_ok hput₂₁, Keyed.insert_insert_self]
        · rw [enters_insert_self.put_eq_ok hput₁₂, Keyed.insert_insert_self]
    · obtain ⟨u₁, hu₁⟩ := exists_insert_of_put h₁
      obtain ⟨u₂, rfl⟩ := exists_insert_of_put h₂
      refine ⟨_, ?_, put_insert_of_ne hne u₂ h₁⟩
      rw [hu₁, put_insert_of_ne (Ne.symm hne) u₁ h₂, Keyed.insert_comm hne]

/-- A write leaves nothing of one that was made below it. -/
theorem put_of_put_below {below : List String}
    (h : put segment (behind ++ below) w m = .ok m₁) :
    put segment behind v m₁ = put segment behind v m := by
  induction behind generalizing segment m m₁ with
  | nil =>
    obtain ⟨u, rfl⟩ := exists_insert_of_put h
    rw [put, put, Keyed.insert_insert_self]
  | cons next further ih =>
    obtain ⟨inner, inner', hinner, hput, rfl⟩ := exists_of_put_cons_ok h
    rw [enters_insert_self.put, ih hput, Enters.put hinner]
    cases put next further v inner with
    | error conflict => rfl
    | ok inner' => simp only [Keyed.insert_insert_self]

/-! ## Writes to the store -/

/-- What a write answers, and the store that it leaves: the one that there was if it fails. -/
def write (path : String) (v : Value) (store : Store) : Except Error Unit × Store :=
  match store.set path v with
  | .ok store' => (.ok (), store')
  | .error e => (.error e, store)

theorem write_of_ok (h : store.set path v = .ok store') :
    store.write path v = (.ok (), store') := by
  rw [write, h]

theorem write_of_error {e : Error} (h : store.set path v = .error e) :
    store.write path v = (.error e, store) := by
  rw [write, h]

/-- In a store whose maps are in order, this is what a write in place answers and leaves. -/
theorem setInPlace_eq_write (hstore : store.Ordered) (path : String) (v : Value) :
    store.setInPlace path v = store.write path v := by
  cases h : store.set path v with
  | error e => rw [setInPlace_of_error h, write_of_error h]
  | ok store' =>
    obtain ⟨hanswer, hleft⟩ := setInPlace_of_ok h
    rw [write_of_ok h, ← hanswer, ← hleft hstore]

/-- A store in order stays in order, whether or not a write fails. -/
theorem Ordered.write (hstore : store.Ordered) (hv : v.Ordered) (path : String) :
    (store.write path v).2.Ordered := by
  cases h : store.set path v with
  | error e => rwa [write_of_error h]
  | ok store' =>
    rw [write_of_ok h]
    exact hstore.set hv h

/-- Where no write led, it blocks no way and frees none: above its path there are maps before and
    after it, or nothing. -/
theorem blocks_iff_of_set (h : store.set path v = .ok store')
    (hnot : ¬ Path.pieces path <+: Path.pieces conflict) :
    store'.Blocks conflict ↔ store.Blocks conflict := by
  by_cases habove : Path.pieces conflict <+: Path.pieces path
  · obtain ⟨rest, hrest⟩ := habove
    have hne : rest ≠ [] := by
      rintro rfl
      exact hnot ⟨[], by rw [List.append_nil, ← hrest, List.append_nil]⟩
    obtain ⟨m, m', hbefore, -, hafter⟩ := get_above_set h hne hrest.symm
    refine iff_of_false ?_ ?_
    · rintro ⟨u, hu, hkind⟩
      rw [hafter] at hu
      cases hu
      exact hkind rfl
    · rintro ⟨u, hu, hkind⟩
      rcases hbefore with hmap | ⟨hnone, -⟩
      · rw [hmap] at hu
        cases hu
        exact hkind rfl
      · rw [hnone] at hu
        cases hu
  · rw [Blocks, Blocks, get_of_set h (not_overlaps_of_not_isPrefix hnot habove)]

/-- A write at a path that does not lead along the path of another one has no part in the answer of
    the other. -/
theorem write_fst_of_set {other : String} (h : store.set path v = .ok store')
    (hnot : ¬ Path.pieces path <+: Path.pieces other) (w : Value) :
    (store'.write other w).1 = (store.write other w).1 := by
  have hblocks {above : String} (habove : Path.Above above other) :
      store'.Blocks above ↔ store.Blocks above :=
    blocks_iff_of_set h fun hbelow => hnot (hbelow.trans habove.1)
  by_cases hother : Path.IsPath other
  · rcases set_cases hother store w with ⟨conflict, hset⟩ | ⟨written, hset⟩
    · obtain ⟨-, habove, hblocked⟩ := set_eq_conflict_iff.1 hset
      have hset' : store'.set other w = .error (.statePathConflict conflict) :=
        set_eq_conflict_iff.2 ⟨hother, habove, (hblocks habove).2 hblocked⟩
      rw [write_of_error hset, write_of_error hset']
    · obtain ⟨-, hfree⟩ := exists_set_eq_ok_iff.1 ⟨written, hset⟩
      obtain ⟨written', hset'⟩ : ∃ s, store'.set other w = .ok s :=
        exists_set_eq_ok_iff.2 ⟨hother, fun ⟨above, habove, hblocked⟩ =>
          hfree ⟨above, habove, (hblocks habove).1 hblocked⟩⟩
      rw [write_of_ok hset, write_of_ok hset']
  · rw [write_of_error (set_of_not_isPath hother), write_of_error (set_of_not_isPath hother)]

/-- The answer of a write is the same after another one, be it that this one failed. -/
theorem write_fst_of_write {other : String} (store : Store) (v w : Value)
    (hnot : ¬ Path.pieces path <+: Path.pieces other) :
    ((store.write path v).2.write other w).1 = (store.write other w).1 := by
  cases hset : store.set path v with
  | error e => rw [write_of_error hset]
  | ok store' =>
    rw [write_of_ok hset]
    exact write_fst_of_set hset hnot w

/-- Two writes that do not fail, and neither of which leads along the other, lead to the same store
    in both orders. -/
theorem set_comm {other : String} {store₁ store₂ : Store} (h₁ : store.set path v = .ok store₁)
    (h₂ : store.set other w = .ok store₂) (hfirst : ¬ Path.pieces path <+: Path.pieces other)
    (hsecond : ¬ Path.pieces other <+: Path.pieces path) :
    ∃ store', store₁.set other w = .ok store' ∧ store₂.set path v = .ok store' := by
  obtain ⟨segment, behind, root₁, hpath, hpieces, hput₁, rfl⟩ := exists_put_pieces h₁
  obtain ⟨segment', behind', root₂, hother, hpieces', hput₂, rfl⟩ := exists_put_pieces h₂
  rw [hpieces, hpieces'] at hfirst hsecond
  obtain ⟨root, hput₂₁, hput₁₂⟩ := put_comm hput₁ hput₂ hfirst hsecond
  exact ⟨{ root }, by rw [set_of_isPath hother hpieces', hput₂₁],
    by rw [set_of_isPath hpath hpieces, hput₁₂]⟩

/-- A write leaves nothing of one that was made at its path or below. -/
theorem set_of_set_below {other : String} (h : store.set other w = .ok store')
    (hbelow : Path.pieces path <+: Path.pieces other) :
    store'.set path v = store.set path v := by
  obtain ⟨segment, behind, root, hother, hpieces, hput, rfl⟩ := exists_put_pieces h
  have hpath : Path.IsPath path := hother.of_subset hbelow.subset
  obtain ⟨first, front, hfront⟩ := List.exists_cons_of_ne_nil (Path.pieces_ne_nil path)
  obtain ⟨below, hbelow⟩ := hbelow
  obtain ⟨rfl, rfl⟩ : first = segment ∧ front ++ below = behind := by
    simpa [hfront, hpieces] using hbelow
  rw [set_of_isPath hpath hfront, set_of_isPath hpath hfront, put_of_put_below hput]

/-- A write that is answered with an error leaves the store as it was. -/
theorem write_of_fst_error {e : Error} (h : (store.write path v).1 = .error e) :
    store.write path v = (.error e, store) := by
  cases hset : store.set path v with
  | error e' =>
    rw [write_of_error hset] at h ⊢
    exact congrArg (·, store) h
  | ok store' =>
    rw [write_of_ok hset] at h
    cases h

theorem exists_set_of_write_fst_ok (h : (store.write path v).1 = .ok ()) :
    ∃ store', store.set path v = .ok store' := by
  cases hset : store.set path v with
  | error e =>
    rw [write_of_error hset] at h
    cases h
  | ok store' => exact ⟨store', rfl⟩

/-- In both orders, two writes leave the same store, whether or not they fail. -/
theorem write_comm {other : String} (store : Store) (v w : Value)
    (hfirst : ¬ Path.pieces path <+: Path.pieces other)
    (hsecond : ¬ Path.pieces other <+: Path.pieces path) :
    ((store.write path v).2.write other w).2 = ((store.write other w).2.write path v).2 := by
  have hanswer₁ := write_fst_of_write store v w hfirst
  have hanswer₂ := write_fst_of_write store w v hsecond
  cases h₁ : store.set path v with
  | error e₁ =>
    rw [write_of_error h₁] at hanswer₂ ⊢
    rw [write_of_fst_error hanswer₂]
  | ok store₁ =>
    cases h₂ : store.set other w with
    | error e₂ =>
      rw [write_of_error h₂] at hanswer₁ ⊢
      rw [write_of_fst_error hanswer₁]
    | ok store₂ =>
      obtain ⟨store', h₂₁, h₁₂⟩ := set_comm h₁ h₂ hfirst hsecond
      rw [write_of_ok h₁, write_of_ok h₂, write_of_ok h₂₁, write_of_ok h₁₂]

/-- After a write at its path or below that did not fail, a write does not fail either, and leaves
    the store as if there had been no other. -/
theorem write_of_write_below {other : String} (hbelow : Path.pieces path <+: Path.pieces other)
    (h : (store.write other w).1 = .ok ()) (v : Value) :
    (store.write other w).2.write path v = store.write path v ∧ (store.write path v).1 = .ok () := by
  obtain ⟨store', hset⟩ := exists_set_of_write_fst_ok h
  -- what blocks the way of the upper path blocks that of the lower one
  obtain ⟨hother, hfree⟩ := exists_set_eq_ok_iff.1 ⟨store', hset⟩
  obtain ⟨written, hwritten⟩ : ∃ s, store.set path v = .ok s :=
    exists_set_eq_ok_iff.2 ⟨hother.of_subset hbelow.subset, fun ⟨above, habove, hblocks⟩ =>
      hfree ⟨above, habove.trans_prefix hbelow, hblocks⟩⟩
  rw [write_of_ok hset, write_of_ok hwritten,
    write_of_ok ((set_of_set_below hset hbelow).trans hwritten)]
  exact ⟨rfl, rfl⟩

/-- Writes at two paths, neither of which leads along the other, answer the same in both orders, and
    leave the same store. A write at the path of one that did not fail, or above it, does not fail
    either, and leaves the store as if there had been no other. If the maps of a store are in order,
    all of this is true of writes in place. -/
theorem writes_classified (store : Store) (path other : String) (v w : Value) :
    (¬ Path.pieces path <+: Path.pieces other → ¬ Path.pieces other <+: Path.pieces path →
      ((store.write path v).2.write other w).2 = ((store.write other w).2.write path v).2 ∧
        ((store.write path v).2.write other w).1 = (store.write other w).1 ∧
        ((store.write other w).2.write path v).1 = (store.write path v).1) ∧
      (Path.pieces path <+: Path.pieces other → (store.write other w).1 = .ok () →
        (store.write other w).2.write path v = store.write path v ∧
          (store.write path v).1 = .ok ()) ∧
      ∀ (s : Store) (p : String) (u : Value), s.Ordered → u.Ordered →
        s.setInPlace p u = s.write p u ∧ (s.write p u).2.Ordered :=
  ⟨fun hfirst hsecond => ⟨write_comm store v w hfirst hsecond,
      write_fst_of_write store v w hfirst, write_fst_of_write store w v hsecond⟩,
    fun hbelow h => write_of_write_below hbelow h v,
    fun _ p u hs hu => ⟨setInPlace_eq_write hs p u, hs.write hu p⟩⟩

/-- Beside the title there is room for a plan, and below it for nothing, whichever is tried first.
    A number in the place of the whole project leaves nothing of a plan. -/
theorem writes_classified_titled :
    (¬ Path.pieces "proj.plan" <+: Path.pieces "proj.title.draft" ∧
        ¬ Path.pieces "proj.title.draft" <+: Path.pieces "proj.plan" ∧
        Path.pieces "proj" <+: Path.pieces "proj.plan") ∧
      ((titled.write "proj.plan" .absent).2.write "proj.title.draft" .absent).2 =
        ((titled.write "proj.title.draft" .absent).2.write "proj.plan" .absent).2 ∧
      ((titled.write "proj.plan" .absent).2.write "proj.title.draft" .absent).1 =
        .error (.statePathConflict "proj.title") ∧
      (titled.write "proj.plan" .absent).2.write "proj" (.number 1) =
        (.ok (), { root := [("proj", .number 1)] }) ∧
      titled.setInPlace "proj.plan" .absent = titled.write "proj.plan" .absent := by
  have hproj : Path.pieces "proj" = ["proj"] := by decide
  have hplan : Path.pieces "proj.plan" = ["proj", "plan"] := by decide
  have hdraft : Path.pieces "proj.title.draft" = ["proj", "title", "draft"] := by decide
  have hplanned : (titled.write "proj.plan" .absent).1 = .ok () := by
    rw [write, set_of_isPath (by decide) hplan]
    rfl
  have hrefused : (titled.write "proj.title.draft" .absent).1 =
      .error (.statePathConflict "proj.title") := by
    rw [write, set_of_isPath (by decide) hdraft]
    rfl
  have hreplaced : titled.write "proj" (.number 1) = (.ok (), { root := [("proj", .number 1)] }) := by
    rw [write, set_of_isPath (by decide) hproj]
    rfl
  rw [hplan, hdraft, hproj]
  obtain ⟨hbeside, -, hplace⟩ :=
    titled.writes_classified "proj.plan" "proj.title.draft" .absent .absent
  obtain ⟨-, hbelow, -⟩ := titled.writes_classified "proj" "proj.plan" (.number 1) .absent
  rw [hplan, hdraft] at hbeside
  rw [hproj, hplan] at hbelow
  obtain ⟨hstores, hanswer, -⟩ := hbeside (by decide) (by decide)
  refine ⟨⟨by decide, by decide, by decide⟩, hstores, hanswer.trans hrefused, ?_,
    (hplace titled _ _ ordered_titled .absent).1⟩
  rw [(hbelow (by decide) hplanned).1, hreplaced]

end TurnScript.Store
