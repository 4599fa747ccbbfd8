import TurnScript.Proofs.Program.Check
import TurnScript.Proofs.Session.Turn
import TurnScript.Proofs.Store

/-!
# The footprint of turns

Where the turns of a session can write is told by the text of its program, if the program names all
the paths of its writes literally (`Program.WritesLiterally`): at these paths, and where the argument
is recorded (`Session.writtenPaths`). Whatever a turn executes, it writes nowhere else.

* `get_take_of_not_overlaps`: at every path that overlaps with none of them, the store answers as
  before.
-/

namespace TurnScript

/-! ## Writes in the text of a program -/

/-- The path at which the form writes, if it is a write that names its path literally. -/
def OperatorForm.writtenPath? (f : OperatorForm) : Option String :=
  if f.operator = Function.setState.name then
    match f.arguments with
    | .symbol path :: _ => some path
    | .text path :: _ => some path
    | _ => none
  else none

/-- A write that names a path literally writes at no other. -/
theorem OperatorForm.writtenPath?_eq_of_mayName {target : Form} {arguments : List Form}
    {path : String} (h : (writtenPath? ⟨Function.setState.name, target :: arguments⟩).isSome)
    (hpath : target.MayName path) :
    writtenPath? ⟨Function.setState.name, target :: arguments⟩ = some path := by
  rw [writtenPath?, if_pos rfl] at h ⊢
  cases target with
  | symbol literal => exact congrArg some hpath.symm
  | text literal => exact congrArg some hpath.symm
  | number n => cases h
  | list items => cases h

namespace Program

variable {program : Program} {paths : String → Prop}

/-- All writes in the program name their path literally. -/
def WritesLiterally (program : Program) : Prop :=
  ∀ caller f, program.HasForm caller f → f.operator = Function.setState.name →
    f.arguments ≠ [] → f.writtenPath?.isSome

/-- The procedures and their operator forms can be gone through. -/
instance (program : Program) : Decidable program.WritesLiterally :=
  decidable_of_iff (∀ entry ∈ program.procedures, ∀ f ∈ entry.2.operatorForms,
      f.operator = Function.setState.name → f.arguments ≠ [] → f.writtenPath?.isSome)
    ⟨fun h caller f hform => by
      obtain ⟨p, hp, hf⟩ := hasForm_iff.1 hform
      exact h (caller, p) hp f hf,
    fun h entry hentry f hf => h entry.1 f (hasForm_iff.2 ⟨entry.2, hentry, hf⟩)⟩

/-- The paths that the writes in the program name literally. -/
def writtenPaths (program : Program) : List String :=
  program.procedures.flatMap fun entry => entry.2.operatorForms.filterMap (·.writtenPath?)

theorem mem_writtenPaths {caller path : String} {f : OperatorForm} (h : program.HasForm caller f)
    (hpath : f.writtenPath? = some path) : path ∈ program.writtenPaths := by
  obtain ⟨p, hp, hf⟩ := hasForm_iff.1 h
  exact List.mem_flatMap.2 ⟨(caller, p), hp, List.mem_filterMap.2 ⟨f, hf, hpath⟩⟩

/-- The forms of a program that names its paths literally write at these paths. -/
theorem covers_writes (hliteral : program.WritesLiterally)
    (hpaths : ∀ path ∈ program.writtenPaths, paths path) :
    Evaluation.Covers program (fun _ => True) paths program.Searches where
  acknowledged _ _ _ := trivial
  calling _ _ := trivial
  operand := (covers_foresees program).operand
  statement := (covers_foresees program).statement
  unknown _ _ _ _ := trivial
  missing _ _ _ _ _ _ := trivial
  write items target path := by
    rintro ⟨caller, h⟩ ⟨⟨arguments, rfl⟩, hpath⟩
    have hform := h ⟨Function.setState.name, target :: arguments⟩ .here
    have hliteralPath := hliteral caller _ hform rfl (by simp)
    exact hpaths path
      (mem_writtenPaths hform (OperatorForm.writtenPath?_eq_of_mayName hliteralPath hpath))

end Program

/-! ## Runs and what they keep -/

/-- Whatever becomes of the run, what is seen of the store stays the same. -/
def Run.Keeps {α β : Type} (view : Store → β) (m : Run α) : Prop :=
  m.Follows fun w w' => view w'.store = view w.store

/-- What no write at the given paths changes is kept when runs are put together. -/
def Congruence.keeps {β : Type} (view : Store → β) (paths : String → Prop)
    (h : ∀ path, paths path → ∀ v store store', store.set path v = .ok store' →
      view store' = view store) :
    Congruence (fun _ => True) (fun _ => True) paths :=
  .follows _ paths (fun w w' => view w'.store = view w.store) (fun _ => rfl)
    (fun _ _ _ hfirst hsecond => hsecond.trans hfirst) (fun _ _ _ => trivial) (fun _ _ => trivial)
    (fun _ _ => rfl) (fun _ _ => rfl) (fun _ => rfl)
    fun hpath v w store hset => h _ hpath v w.store store hset

/-! ## Turns -/

namespace Session

variable (session : Session)

/-- Where a turn of the session may write: at the paths that the program names in its writes, and
    where the arguments of turns are recorded. -/
def writtenPaths : List String := session.program.writtenPaths ++ session.config.contextPath.toList

/-- If all writes of the program name their path literally, then no turn, whatever it executes and
    however it ends, changes what the store answers at a path that overlaps with none at which the
    session writes. -/
theorem get_take_of_not_overlaps (hliteral : session.program.WritesLiterally) {path : String}
    (hpath : ∀ written ∈ session.writtenPaths, ¬ Path.Overlaps written path) (turn : Turn) :
    (session.take turn).store.get path = session.store.get path := by
  let R := Congruence.keeps (fun store => store.get path)
    (fun written => ¬ Path.Overlaps written path) fun _ hother _ _ _ hset =>
      Store.get_of_set hset hother
  have hcovers := Program.covers_writes hliteral fun written hwritten =>
    hpath written (List.mem_append_left _ hwritten)
  have hrecord (written : String) (h : session.recordPath? turn.argument = some written) :
      ¬ Path.Overlaps written path := by
    rw [recordPath?] at h
    split at h
    · cases h
    · exact hpath written (List.mem_append_right _ (Option.mem_toList.2 h))
  rw [store_take, turnWorld]
  -- a procedure that is missing is not executed, and then the argument is not recorded either
  cases session.program.lookUp turn.procedure with
  | error e => rfl
  | ok p =>
    have hturn : (session.turn turn.procedure turn.argument).Keeps fun store => store.get path :=
      session.holds_turn turn.procedure turn.argument R hcovers trivial (fun _ => trivial) hrecord
    exact hturn _

/-- A session with a procedure that writes at two paths, the second one behind the first. -/
def noting : Session where
  config := {}
  program := ⟨[("Note", ⟨"Note", ["note"],
    [.list [.symbol "SET_STATE", .symbol "notes.last", .symbol "note"],
      .list [.symbol "SET_STATE", .text "notes.last.draft", .symbol "note"]]⟩)]⟩
  store := { root := [("notes", .map [("first", .text "Hello")])] }

/-- The second write fails, since the first one has left a text in its way. Neither touches the first
    note. -/
theorem get_take_noting :
    ((noting.take (.run "Note" (.text "Hi"))).store.get "notes.last").toOption = some (.text "Hi") ∧
      (noting.take (.run "Note" (.text "Hi"))).store.get "notes.first" = .ok (.text "Hello") := by
  have hwritten : noting.writtenPaths =
      ["notes.last", "notes.last.draft", defaultContextPath] := by decide
  refine ⟨by decide +kernel, ?_⟩
  rw [noting.get_take_of_not_overlaps (by decide) (by rw [hwritten]; decide)]
  rfl

end Session

end TurnScript
