import TurnScript.Proofs.Keyed
import TurnScript.Value

/-!
# Values whose maps are in order

In the values that programs meet, every map has its keys in ascending order (`Value.Ordered`), since
maps are made by insertion only. An induction principle for values, in which lists and maps have the
hypothesis for everything that they hold, is here as well.
-/

namespace TurnScript

namespace Value

/-- What holds of a list and of a map whenever it holds of everything in them, and of all other
    values, holds of every value. -/
@[induction_eliminator]
theorem induct {motive : Value → Prop} (absent : motive .absent) (bool : ∀ b, motive (.bool b))
    (number : ∀ n, motive (.number n)) (text : ∀ s, motive (.text s))
    (list : ∀ items, (∀ item ∈ items, motive item) → motive (.list items))
    (map : ∀ entries, (∀ entry ∈ entries, motive entry.2) → motive (.map entries)) (v : Value) :
    motive v :=
  @Value.rec motive (fun items => ∀ item ∈ items, motive item)
    (fun entries => ∀ entry ∈ entries, motive entry.2) (fun entry => motive entry.2)
    absent bool number text list map
    (fun _ hitem => absurd hitem List.not_mem_nil)
    (fun _ _ hfirst hrest item hitem =>
      (List.mem_cons.1 hitem).elim (fun heq => heq ▸ hfirst) (hrest item))
    (fun _ hentry => absurd hentry List.not_mem_nil)
    (fun _ _ hfirst hrest entry hentry =>
      (List.mem_cons.1 hentry).elim (fun heq => heq ▸ hfirst) (hrest entry))
    (fun _ _ hv => hv) v

/-- The keys of all maps in the value ascend. -/
inductive Ordered : Value → Prop
  | absent : Ordered .absent
  | bool (b : Bool) : Ordered (.bool b)
  | number (n : Int64) : Ordered (.number n)
  | text (s : String) : Ordered (.text s)
  | list {items : List Value} : (∀ item ∈ items, Ordered item) → Ordered (.list items)
  | map {entries : List (String × Value)} : Keyed.Sorted entries →
    (∀ entry ∈ entries, Ordered entry.2) → Ordered (.map entries)

variable {entries : Keyed Value} {key : String} {v : Value}

theorem Ordered.sorted (h : Ordered (.map entries)) : Keyed.Sorted entries := by
  cases h with
  | map hsorted => exact hsorted

theorem Ordered.find? (h : Ordered (.map entries)) (hfind : Keyed.find? key entries = some v) :
    v.Ordered := by
  cases h with
  | map _ hentries => exact hentries _ (Keyed.mem_of_find? hfind)

theorem Ordered.insert (h : Ordered (.map entries)) (hv : v.Ordered) :
    Ordered (.map (Keyed.insert key v entries)) := by
  cases h with
  | map hsorted hentries =>
    refine .map (Keyed.sorted_insert hsorted key v) fun entry hentry => ?_
    rcases Keyed.mem_of_mem_insert hentry with rfl | hentry
    · exact hv
    · exact hentries entry hentry

theorem ordered_empty : Ordered (.map []) :=
  .map List.Pairwise.nil fun _ hentry => absurd hentry List.not_mem_nil

end Value

end TurnScript
