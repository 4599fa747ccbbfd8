import TurnScript.Json.Conversion
import TurnScript.Proofs.Integer
import TurnScript.Proofs.Value.Ordered

/-!
# Values and their JSON

A value is converted to JSON and back without a loss, unless its lists and maps hold each other on
too many levels (`ofJsonAt_toJson`); and JSON that is converted to a value is the JSON of that value
(`toJson_of_ofJsonAt`). So JSON that holds another number than one of 64 bits is no value's, and its
conversion fails.
-/

namespace TurnScript

/-! ## Traversals that may fail -/

section Traversal

variable {α β ε : Type} {f : α → Except ε β} {xs : List α} {e : ε}

/-- If whatever fails does so with one error, so does the traversal. -/
theorem mapM_eq_ite {P : α → Prop} [DecidablePred P] {g : α → β}
    (h : ∀ x ∈ xs, f x = if P x then .ok (g x) else .error e) :
    xs.mapM f = if ∀ x ∈ xs, P x then .ok (xs.map g) else .error e := by
  induction xs with
  | nil => rfl
  | cons x xs ih =>
    rw [List.mapM_cons, h x List.mem_cons_self, ih fun y hy => h y (List.mem_cons_of_mem _ hy)]
    by_cases hx : P x
    · by_cases hxs : ∀ y ∈ xs, P y
      · rw [if_pos hx, if_pos hxs, if_pos (List.forall_mem_cons.2 ⟨hx, hxs⟩)]
        rfl
      · rw [if_pos hx, if_neg hxs, if_neg fun hall => hxs (List.forall_mem_cons.1 hall).2]
        rfl
    · rw [if_neg hx, if_neg fun hall => hx (List.forall_mem_cons.1 hall).1]
      rfl

/-- If what is found for each element leads back to it, so does what the traversal finds. -/
theorem map_of_mapM_eq_ok {g : β → α} {ys : List β} (hm : xs.mapM f = .ok ys)
    (h : ∀ x ∈ xs, ∀ y, f x = .ok y → g y = x) : ys.map g = xs := by
  induction xs generalizing ys with
  | nil =>
    cases hm
    rfl
  | cons x xs ih =>
    rw [List.mapM_cons] at hm
    cases hx : f x with
    | error e =>
      rw [hx] at hm
      cases hm
    | ok y =>
      cases hxs : xs.mapM f with
      | error e =>
        rw [hx, hxs] at hm
        cases hm
      | ok ys' =>
        rw [hx, hxs] at hm
        cases hm
        rw [List.map_cons, h x List.mem_cons_self y hx,
          ih hxs fun z hz => h z (List.mem_cons_of_mem _ hz)]

/-- A traversal fails with the error of an element. -/
theorem exists_of_mapM_eq_error (hm : xs.mapM f = .error e) : ∃ x ∈ xs, f x = .error e := by
  induction xs with
  | nil => cases hm
  | cons x xs ih =>
    rw [List.mapM_cons] at hm
    cases hx : f x with
    | error e' =>
      rw [hx] at hm
      cases hm
      exact ⟨x, List.mem_cons_self, hx⟩
    | ok y =>
      cases hxs : xs.mapM f with
      | error e' =>
        rw [hx, hxs] at hm
        cases hm
        obtain ⟨z, hz, hfz⟩ := ih hxs
        exact ⟨z, List.mem_cons_of_mem _ hz, hfz⟩
      | ok ys =>
        rw [hx, hxs] at hm
        cases hm

end Traversal

/-! ## JSON values -/

namespace Json

/-- What holds of an array and of an object whenever it holds of everything in them, and of all
    other JSON values, holds of every JSON value. -/
@[induction_eliminator]
theorem induct {motive : Json → Prop} (null : motive .null) (bool : ∀ b, motive (.bool b))
    (number : ∀ n, motive (.number n)) (string : ∀ s, motive (.string s))
    (array : ∀ items, (∀ item ∈ items, motive item) → motive (.array items))
    (object : ∀ entries, (∀ entry ∈ entries, motive entry.2) → motive (.object entries))
    (j : Json) : motive j :=
  @Json.rec motive (fun items => ∀ item ∈ items, motive item)
    (fun entries => ∀ entry ∈ entries, motive entry.2) (fun entry => motive entry.2)
    null bool number string array object
    (fun _ hitem => absurd hitem List.not_mem_nil)
    (fun _ _ hfirst hrest item hitem =>
      (List.mem_cons.1 hitem).elim (fun heq => heq ▸ hfirst) (hrest item))
    (fun _ hentry => absurd hentry List.not_mem_nil)
    (fun _ _ hfirst hrest entry hentry =>
      (List.mem_cons.1 hentry).elim (fun heq => heq ▸ hfirst) (hrest entry))
    (fun _ _ hj => hj) j

/-- The number is an integer of 64 bits. -/
def Number.IsInt64 (n : Number) : Prop := ∃ i : Int64, n = .integer i.toInt

/-- The number occurs in the JSON value. -/
inductive Holds (n : Number) : Json → Prop
  | here : Holds n (.number n)
  | item {items : List Json} {item : Json} : item ∈ items → Holds n item → Holds n (.array items)
  | entry {entries : List (String × Json)} {entry : String × Json} : entry ∈ entries →
    Holds n entry.2 → Holds n (.object entries)

end Json

namespace Value

variable {depth : Nat} {j : Json} {v : Value} {e : ParseError}

theorem toJsonAll_eq_map (items : List Value) : toJsonAll items = items.map toJson := by
  induction items with
  | nil => rfl
  | cons item rest ih => rw [toJsonAll, ih, List.map_cons]

theorem toJsonEntries_eq_map (entries : List (String × Value)) :
    toJsonEntries entries = entries.map fun entry => (entry.1, entry.2.toJson) := by
  induction entries with
  | nil => rfl
  | cons entry rest ih => rw [toJsonEntries, ih, List.map_cons]

/-- Below the last level nothing is converted. -/
theorem ofJsonAt_of_le (h : maxJsonDepth ≤ depth) (j : Json) :
    ofJsonAt depth j = .error jsonTooDeep := by
  rw [ofJsonAt.eq_def, if_pos h]

theorem ofJsonAll_eq_mapM (items : List Json) :
    ofJsonAll depth items = items.mapM (ofJsonAt depth) := by
  induction items with
  | nil => rfl
  | cons item rest ih => rw [ofJsonAll, ih, List.mapM_cons]

/-- An array is converted item by item, one level down. -/
theorem ofJsonAt_array (h : depth < maxJsonDepth) (items : List Json) :
    ofJsonAt depth (.array items) = (items.mapM (ofJsonAt (depth + 1))).map list := by
  rw [ofJsonAt, if_neg (Nat.not_le.2 h), ← ofJsonAll_eq_mapM]
  cases ofJsonAll (depth + 1) items <;> rfl

/-- The entry of a map to which an entry of an object is converted. -/
def ofJsonEntry (depth : Nat) (entry : String × Json) : Except ParseError (String × Value) :=
  (ofJsonAt depth entry.2).map fun v => (entry.1, v)

theorem ofJsonEntries_eq_mapM (entries : List (String × Json)) :
    ofJsonEntries depth entries = entries.mapM (ofJsonEntry depth) := by
  induction entries with
  | nil => rfl
  | cons entry rest ih =>
    rw [ofJsonEntries, ih, List.mapM_cons, ofJsonEntry]
    cases ofJsonAt depth entry.2 <;> rfl

/-- An object is converted entry by entry, one level down. -/
theorem ofJsonAt_object (h : depth < maxJsonDepth) (entries : List (String × Json)) :
    ofJsonAt depth (.object entries) = (entries.mapM (ofJsonEntry (depth + 1))).map map := by
  rw [ofJsonAt, if_neg (Nat.not_le.2 h), ← ofJsonEntries_eq_mapM]
  cases ofJsonEntries (depth + 1) entries <;> rfl

/-! ## Heights -/

mutual

/-- How many lists and maps that are not empty hold each other in a value. -/
def height : Value → Nat
  | .absent | .bool _ | .number _ | .text _ => 0
  | .list items => heightIn items
  | .map entries => heightInEntries entries

/-- One more than the greatest height of several values; zero if there are none. -/
def heightIn : List Value → Nat
  | [] => 0
  | v :: vs => max (height v + 1) (heightIn vs)

/-- One more than the greatest height of the values of several entries; zero if there are none. -/
def heightInEntries : List (String × Value) → Nat
  | [] => 0
  | (_, v) :: rest => max (height v + 1) (heightInEntries rest)

end

/-- Everything in a list is one level below it. -/
theorem add_height_list_lt_iff {items : List Value} {n : Nat} :
    depth + (list items).height < n ↔ depth < n ∧ ∀ item ∈ items, depth + 1 + item.height < n := by
  rw [height]
  induction items with
  | nil => simp [heightIn]
  | cons item rest ih =>
    rw [List.forall_mem_cons, and_left_comm, ← ih, heightIn]
    omega

/-- Everything in a map is one level below it. -/
theorem add_height_map_lt_iff {entries : List (String × Value)} {n : Nat} :
    depth + (map entries).height < n ↔
      depth < n ∧ ∀ entry ∈ entries, depth + 1 + entry.2.height < n := by
  rw [height]
  induction entries with
  | nil => simp [heightInEntries]
  | cons entry rest ih =>
    rw [List.forall_mem_cons, and_left_comm, ← ih, heightInEntries]
    omega

/-! ## From values to JSON and back -/

theorem ofJsonNumber_toInt (n : Int64) : ofJsonNumber (.integer n.toInt) = .ok (.number n) := by
  rw [ofJsonNumber, Integer.ofInt?_toInt]

/-- The entry of an object is converted back as its value is. -/
theorem ofJsonEntry_toJson {entry : String × Value} {P : Prop} [Decidable P]
    (h : ofJsonAt depth entry.2.toJson = if P then .ok entry.2 else .error jsonTooDeep) :
    ofJsonEntry depth (entry.1, entry.2.toJson) = if P then .ok entry else .error jsonTooDeep := by
  rw [ofJsonEntry, h]
  split <;> rfl

/-- The JSON of a value is converted back to the value, if everything in it is on one of the levels
    that are converted. -/
theorem ofJsonAt_toJson (depth : Nat) (v : Value) :
    ofJsonAt depth v.toJson =
      if depth + v.height < maxJsonDepth then .ok v else .error jsonTooDeep := by
  induction v generalizing depth with
  | absent | bool | text | number =>
    by_cases hdepth : depth < maxJsonDepth <;>
      simp [toJson, ofJsonAt, ofJsonNumber_toInt, height, ← Nat.not_lt, hdepth]
  | list items ih =>
    by_cases hdepth : depth < maxJsonDepth
    · have hitems : items.mapM (ofJsonAt (depth + 1) ∘ toJson) =
          if ∀ item ∈ items, depth + 1 + item.height < maxJsonDepth then .ok (items.map id)
          else .error jsonTooDeep :=
        mapM_eq_ite fun item hitem => ih item hitem (depth + 1)
      rw [toJson, toJsonAll_eq_map, ofJsonAt_array hdepth, List.mapM_map, hitems, List.map_id]
      simp only [add_height_list_lt_iff, hdepth, true_and]
      split <;> rfl
    · rw [ofJsonAt_of_le (Nat.not_lt.1 hdepth), if_neg (by omega)]
  | map entries ih =>
    by_cases hdepth : depth < maxJsonDepth
    · have hentries : entries.mapM (ofJsonEntry (depth + 1) ∘ fun entry =>
            (entry.1, entry.2.toJson)) =
          if ∀ entry ∈ entries, depth + 1 + entry.2.height < maxJsonDepth then
            .ok (entries.map id)
          else .error jsonTooDeep :=
        mapM_eq_ite fun entry hentry => ofJsonEntry_toJson (ih entry hentry (depth + 1))
      rw [toJson, toJsonEntries_eq_map, ofJsonAt_object hdepth, List.mapM_map, hentries,
        List.map_id]
      simp only [add_height_map_lt_iff, hdepth, true_and]
      split <;> rfl
    · rw [ofJsonAt_of_le (Nat.not_lt.1 hdepth), if_neg (by omega)]

/-! ## From JSON to values and back -/

theorem toJson_of_ofJsonNumber {n : Json.Number} (h : ofJsonNumber n = .ok v) :
    v.toJson = .number n := by
  cases n with
  | real x => cases h
  | integer i =>
    rw [ofJsonNumber] at h
    cases hi : Integer.ofInt? i with
    | none =>
      rw [hi] at h
      cases h
    | some n =>
      rw [hi] at h
      cases h
      rw [toJson, Integer.toInt_of_ofInt? hi]

/-- Only on the levels above the last one is anything converted. -/
theorem lt_of_ofJsonAt_eq_ok (h : ofJsonAt depth j = .ok v) : depth < maxJsonDepth :=
  Nat.lt_of_not_le fun hle => by
    rw [ofJsonAt_of_le hle] at h
    cases h

/-- JSON that is converted to a value is the JSON of that value. -/
theorem toJson_of_ofJsonAt (h : ofJsonAt depth j = .ok v) : v.toJson = j := by
  induction j generalizing depth v with
  | null | bool b | string s =>
    have hdepth := lt_of_ofJsonAt_eq_ok h
    rw [ofJsonAt, if_neg (Nat.not_le.2 hdepth)] at h
    cases h
    rfl
  | number n =>
    have hdepth := lt_of_ofJsonAt_eq_ok h
    rw [ofJsonAt, if_neg (Nat.not_le.2 hdepth)] at h
    exact toJson_of_ofJsonNumber h
  | array items ih =>
    rw [ofJsonAt_array (lt_of_ofJsonAt_eq_ok h)] at h
    cases hitems : items.mapM (ofJsonAt (depth + 1)) with
    | error e =>
      rw [hitems] at h
      cases h
    | ok vs =>
      rw [hitems] at h
      cases h
      rw [toJson, toJsonAll_eq_map,
        map_of_mapM_eq_ok hitems fun item hitem _ hv => ih item hitem hv]
  | object entries ih =>
    rw [ofJsonAt_object (lt_of_ofJsonAt_eq_ok h)] at h
    cases hentries : entries.mapM (ofJsonEntry (depth + 1)) with
    | error e =>
      rw [hentries] at h
      cases h
    | ok vs =>
      rw [hentries] at h
      cases h
      rw [toJson, toJsonEntries_eq_map, map_of_mapM_eq_ok hentries fun entry hentry ve hve => ?_]
      -- an entry keeps its key
      rw [ofJsonEntry] at hve
      cases hv : ofJsonAt (depth + 1) entry.2 with
      | error e =>
        rw [hv] at hve
        cases hve
      | ok v =>
        rw [hv] at hve
        cases hve
        rw [ih entry hentry hv]

/-! ## What is not converted -/

/-- An array fails to be converted with the error of an item. -/
theorem exists_of_ofJsonAt_array_error {items : List Json} (hdepth : depth < maxJsonDepth)
    (h : ofJsonAt depth (.array items) = .error e) :
    ∃ item ∈ items, ofJsonAt (depth + 1) item = .error e := by
  rw [ofJsonAt_array hdepth] at h
  cases hitems : items.mapM (ofJsonAt (depth + 1)) with
  | ok vs =>
    rw [hitems] at h
    cases h
  | error e' =>
    rw [hitems] at h
    cases h
    exact exists_of_mapM_eq_error hitems

/-- An object fails to be converted with the error of an entry. -/
theorem exists_of_ofJsonAt_object_error {entries : List (String × Json)}
    (hdepth : depth < maxJsonDepth) (h : ofJsonAt depth (.object entries) = .error e) :
    ∃ entry ∈ entries, ofJsonAt (depth + 1) entry.2 = .error e := by
  rw [ofJsonAt_object hdepth] at h
  cases hentries : entries.mapM (ofJsonEntry (depth + 1)) with
  | ok vs =>
    rw [hentries] at h
    cases h
  | error e' =>
    rw [hentries] at h
    cases h
    obtain ⟨entry, hentry, he⟩ := exists_of_mapM_eq_error hentries
    refine ⟨entry, hentry, ?_⟩
    rw [ofJsonEntry] at he
    cases hv : ofJsonAt (depth + 1) entry.2 with
    | ok v =>
      rw [hv] at he
      cases he
    | error e' =>
      rw [hv] at he
      cases he
      rfl

/-- A number that is not converted is no integer of 64 bits. -/
theorem kind_of_ofJsonNumber_error {n : Json.Number} (h : ofJsonNumber n = .error e) :
    e.kind = .unsupported := by
  cases n with
  | real x =>
    cases h
    rfl
  | integer i =>
    rw [ofJsonNumber] at h
    cases hi : Integer.ofInt? i with
    | none =>
      rw [hi] at h
      cases h
      rfl
    | some n =>
      rw [hi] at h
      cases h

/-- What keeps JSON from being converted is a number that no value has, or that it is nested too
    deeply. -/
theorem kind_of_ofJsonAt_error (h : ofJsonAt depth j = .error e) :
    e.kind = .unsupported ∨ e.kind = .tooDeeplyNested := by
  induction j generalizing depth with
  | null | bool b | string s =>
    rw [ofJsonAt] at h
    split at h <;> cases h
    exact .inr rfl
  | number n =>
    rw [ofJsonAt] at h
    split at h
    · cases h
      exact .inr rfl
    · exact .inl (kind_of_ofJsonNumber_error h)
  | array items ih =>
    rcases Nat.lt_or_ge depth maxJsonDepth with hdepth | hdepth
    · obtain ⟨item, hitem, he⟩ := exists_of_ofJsonAt_array_error hdepth h
      exact ih item hitem he
    · rw [ofJsonAt_of_le hdepth] at h
      cases h
      exact .inr rfl
  | object entries ih =>
    rcases Nat.lt_or_ge depth maxJsonDepth with hdepth | hdepth
    · obtain ⟨entry, hentry, he⟩ := exists_of_ofJsonAt_object_error hdepth h
      exact ih entry hentry he
    · rw [ofJsonAt_of_le hdepth] at h
      cases h
      exact .inr rfl

/-- All numbers in the JSON of a value are integers of 64 bits. -/
theorem isInt64_of_holds_toJson {n : Json.Number} (h : v.toJson.Holds n) : n.IsInt64 := by
  induction v with
  | absent | bool b | text s => cases h
  | number i =>
    cases h
    exact ⟨i, rfl⟩
  | list items ih =>
    rw [toJson, toJsonAll_eq_map] at h
    cases h with
    | item hmem hitem =>
      obtain ⟨item, hitems, rfl⟩ := List.mem_map.1 hmem
      exact ih item hitems hitem
  | map entries ih =>
    rw [toJson, toJsonEntries_eq_map] at h
    cases h with
    | entry hmem hentry =>
      obtain ⟨entry, hentries, rfl⟩ := List.mem_map.1 hmem
      exact ih entry hentries hentry

/-- A value survives the conversion to JSON and back exactly if its height is below 128, and is
    nested too deeply otherwise; JSON that is converted to a value is the JSON of that value; and
    JSON that holds another number than an integer of 64 bits is converted to none. -/
theorem ofJson_inverts_toJson :
    (∀ v : Value, (v.height < 128 → ofJson v.toJson = .ok v) ∧
      (128 ≤ v.height → ∃ e, ofJson v.toJson = .error e ∧ e.kind = .tooDeeplyNested)) ∧
      (∀ j v, ofJson j = .ok v → v.toJson = j) ∧
      ∀ j : Json, ∀ n, j.Holds n → ¬ n.IsInt64 →
        ∃ e, ofJson j = .error e ∧ (e.kind = .unsupported ∨ e.kind = .tooDeeplyNested) := by
  refine ⟨fun v => ⟨fun h => ?_, fun h => ?_⟩, fun j v h => toJson_of_ofJsonAt h,
    fun j n hholds hn => ?_⟩
  · rw [ofJson, ofJsonAt_toJson, Nat.zero_add, maxJsonDepth, if_pos h]
  · refine ⟨jsonTooDeep, ?_, rfl⟩
    rw [ofJson, ofJsonAt_toJson, Nat.zero_add, maxJsonDepth, if_neg (Nat.not_lt.2 h)]
  · cases h : ofJson j with
    | error e => exact ⟨e, rfl, kind_of_ofJsonAt_error h⟩
    | ok v =>
      rw [← toJson_of_ofJsonAt h] at hholds
      exact absurd (isInt64_of_holds_toJson hholds) hn

/-- An empty list within `n` others. -/
def nested : Nat → Value
  | 0 => .list []
  | n + 1 => .list [nested n]

theorem height_nested (n : Nat) : (nested n).height = n := by
  induction n with
  | zero => rfl
  | succ n ih => rw [nested, height, heightIn, heightIn, ih, Nat.max_zero]

/-- The first integer beyond the ones of 64 bits. -/
theorem not_isInt64 : ¬ (Json.Number.integer 9223372036854775808).IsInt64 := by
  rintro ⟨i, hi⟩
  have hle := Integer.toInt_le_greatest i
  rw [← Json.Number.integer.inj hi, Integer.greatest] at hle
  omega

/-- On both sides of the limit, and of the integers of 64 bits. -/
theorem ofJson_inverts_toJson_nested :
    ofJson (nested 127).toJson = .ok (nested 127) ∧
      (∃ e, ofJson (nested 128).toJson = .error e ∧ e.kind = .tooDeeplyNested) ∧
      (ofJson (.array [.null]) = .ok (.list [.absent]) ∧
        (Value.list [.absent]).toJson = .array [.null]) ∧
      ∃ e, ofJson (.array [.number (.integer 9223372036854775808)]) = .error e ∧
        (e.kind = .unsupported ∨ e.kind = .tooDeeplyNested) :=
  ⟨(ofJson_inverts_toJson.1 (nested 127)).1 (by rw [height_nested]; decide),
    (ofJson_inverts_toJson.1 (nested 128)).2 (Nat.le_of_eq (height_nested 128).symm),
    ⟨rfl, ofJson_inverts_toJson.2.1 _ _ rfl⟩,
    ofJson_inverts_toJson.2.2 _ _ (.item List.mem_cons_self .here) not_isInt64⟩

end Value

end TurnScript
