import Mathlib.Data.List.AList
import Praas.Execution.SingleThread

namespace Praas
namespace Execution

open Library
open ControlPlane (PendingAllocation)

/-!
# The functions of a session

A session loads the functions that a configuration names: the constructor of
`FunctionsLibrary` opens every library when it is first mentioned and looks up
one symbol for every entry, and the destructor closes what was opened.  A name
that occurs twice stands for the entry that comes last.

A configuration that cannot be read, or an entry without one of its members,
ends the program: a null pointer is followed.  That a library opens and a
symbol is found is only asserted.  A release build has no assertions; it keeps
the null pointers in the tables and goes on, and a null handle makes `dlsym`
search the symbols of the whole program.

The parser of the configuration and the dynamic linker are libraries.  The
member `functions` is an object, so that every entry has a key; the
configuration is the list of its entries, and the linker is a parameter.
-/

/-- An entry of the configuration.  The text of a member that is missing cannot
be read. -/
structure ConfigEntry where
  key : Bytes
  functionName : Option Bytes
  libraryName : Option Bytes

/-- `dlopen` and `dlsym`, which may fail.  The handle `none` is the null
pointer. -/
structure Linker (Handle Symbol : Type) where
  dlopen : Bytes -> Option Handle
  dlsym : Option Handle -> Bytes -> Option Symbol

/-- `FunctionsLibrary`, with the paths that `dlopen` was called with.  Both
tables hold pointers, and the null pointer is `none`. -/
structure FunctionsLibrary (Handle Symbol : Type) where
  libraries : AList (fun _ : Bytes => Option Handle)
  functions : AList (fun _ : Bytes => Option Symbol)
  opened : List Bytes

namespace FunctionsLibrary

variable {Handle Symbol : Type}

def codeLocation : Bytes := ascii "/code"

/-- The path of a library: a name that is a path from the root is kept. -/
def libraryPath (name : Bytes) : Bytes :=
  if name.head? = (ascii "/").head? then name else codeLocation ++ ascii "/" ++ name

/-- `assert` of a pointer.  In a build with assertions the null pointer ends
the program; otherwise nothing is checked. -/
def assertPointer {Target : Type} (asserts : Bool) (pointer : Option Target) :
    Option (Option Target) :=
  if asserts = true ∧ pointer.isNone = true then none else some pointer

/-- The handle of a library, which is opened when its name is new. -/
def openLibrary (asserts : Bool) (linker : Linker Handle Symbol)
    (library : FunctionsLibrary Handle Symbol) (name : Bytes) :
    Option (FunctionsLibrary Handle Symbol × Option Handle) :=
  match library.libraries.lookup name with
  | some handle => some (library, handle)
  | none => (assertPointer asserts (linker.dlopen (libraryPath name))).map fun handle =>
      ({ library with
        libraries := library.libraries.insert name handle
        opened := library.opened ++ [libraryPath name] }, handle)

/-- One turn of the loop of the constructor; `none` is the end of the program. -/
def loadEntry (asserts : Bool) (linker : Linker Handle Symbol)
    (library : FunctionsLibrary Handle Symbol) (entry : ConfigEntry) :
    Option (FunctionsLibrary Handle Symbol) := do
  let functionName ← entry.functionName
  let libraryName ← entry.libraryName
  let opened ← library.openLibrary asserts linker libraryName
  let symbol ← assertPointer asserts (linker.dlsym opened.2 functionName)
  some { opened.1 with functions := opened.1.functions.insert entry.key symbol }

def empty : FunctionsLibrary Handle Symbol := ⟨∅, ∅, []⟩

/-- The constructor.  Without a configuration, or when it has no member
`functions`, the name of a null pointer is printed first. -/
def load (asserts : Bool) (linker : Linker Handle Symbol)
    (configuration : Option (List ConfigEntry)) : Option (FunctionsLibrary Handle Symbol) := do
  let entries ← configuration
  entries.foldlM (loadEntry asserts linker) empty

/-- The handles that the destructor goes over, calling `dlclose` with each of
them.  What `dlclose` does with the null pointer is left to the linker. -/
def closed (library : FunctionsLibrary Handle Symbol) : List (Option Handle) :=
  library.libraries.entries.map Sigma.snd

/-- `get_function`, which does not tell a null symbol from a name that is not
known. -/
def getFunction (library : FunctionsLibrary Handle Symbol) (name : Bytes) : Option Symbol :=
  (library.functions.lookup name).join

/-- What the functions of a session do, given what the code of a symbol does. -/
def toFunctions (library : FunctionsLibrary Handle Symbol)
    (code : Symbol -> Bytes -> Bytes -> Memory -> SingleThread.Result Memory) :
    SingleThread.Functions Memory :=
  fun name => (library.getFunction name).map code

/-! ## What a configuration means -/

/-- The symbol of an entry.  A library that does not open leaves the symbols of
the whole program. -/
def symbolOf (linker : Linker Handle Symbol) (entry : ConfigEntry) : Option Symbol := do
  let functionName ← entry.functionName
  let libraryName ← entry.libraryName
  linker.dlsym (linker.dlopen (libraryPath libraryName)) functionName

/-- The entries that end the program: one without a member in every build, and
one without a library or a symbol where that is asserted. -/
inductive Rejected (asserts : Bool) (linker : Linker Handle Symbol) (entry : ConfigEntry) : Prop
  | unnamed (missing : entry.functionName = none)
  | unplaced (missing : entry.libraryName = none)
  | unopened (asserted : asserts = true) (name : Bytes) (named : entry.libraryName = some name)
      (missing : linker.dlopen (libraryPath name) = none)
  | unresolved (asserted : asserts = true) (missing : symbolOf linker entry = none)

/-- The entry that a name stands for. -/
def lastEntry (entries : List ConfigEntry) (name : Bytes) : Option ConfigEntry :=
  entries.reverse.find? (fun entry => decide (entry.key = name))

theorem lastEntry_append (entries : List ConfigEntry) (entry : ConfigEntry) (name : Bytes) :
    lastEntry (entries ++ [entry]) name =
      if entry.key = name then some entry else lastEntry entries name := by
  unfold lastEntry
  rw [List.reverse_append, List.reverse_singleton, List.singleton_append, List.find?_cons]
  by_cases same : entry.key = name
  · rw [decide_eq_true same, if_pos same]
  · rw [decide_eq_false same, if_neg same]

theorem assertPointer_eq_none {Target : Type} {asserts : Bool} {pointer : Option Target}
    (ended : assertPointer asserts pointer = none) : asserts = true ∧ pointer = none := by
  unfold assertPointer at ended
  split at ended
  · rename_i both
    exact ⟨both.1, Option.isNone_iff_eq_none.mp both.2⟩
  · cases ended

theorem assertPointer_eq_some {Target : Type} {asserts : Bool} {pointer kept : Option Target}
    (passed : assertPointer asserts pointer = some kept) :
    kept = pointer ∧ (asserts = true -> pointer ≠ none) := by
  unfold assertPointer at passed
  split at passed
  · cases passed
  · rename_i unchecked
    refine ⟨(Option.some.inj passed).symm, ?_⟩
    intro asserted missing
    exact unchecked ⟨asserted, Option.isNone_iff_eq_none.mpr missing⟩

/-- The libraries that have been mentioned are in the table, each once.  With
assertions all of them are open. -/
structure Opened (asserts : Bool) (linker : Linker Handle Symbol) (mentioned : List Bytes)
    (library : FunctionsLibrary Handle Symbol) : Prop where
  named : forall name, name ∈ library.libraries ↔ name ∈ mentioned
  handles : forall name handle, library.libraries.lookup name = some handle ->
    handle = linker.dlopen (libraryPath name) ∧ (asserts = true -> handle ≠ none)
  opened : library.opened = (library.libraries.keys.map libraryPath).reverse

def mentioned (entries : List ConfigEntry) : List Bytes :=
  entries.filterMap ConfigEntry.libraryName

/-- What the loop has loaded from the entries so far: a name stands for the symbol
of the last entry that has it, and the libraries mentioned have been opened. -/
structure Loaded (asserts : Bool) (linker : Linker Handle Symbol) (entries : List ConfigEntry)
    (library : FunctionsLibrary Handle Symbol) : Prop where
  functions : forall name,
    library.getFunction name = (lastEntry entries name).bind (symbolOf linker)
  libraries : Opened asserts linker (mentioned entries) library

section Loading

variable {asserts : Bool} {linker : Linker Handle Symbol}

theorem loaded_empty : Loaded asserts linker [] empty where
  functions _ := rfl
  libraries := by
    refine ⟨fun name => iff_of_false (AList.notMem_empty name) List.not_mem_nil, ?_, rfl⟩
    intro name handle found
    rw [empty, AList.lookup_empty] at found
    cases found

/-- A library joins those in the table, unless it is one of them, and the handle
that is used for it is what the linker gives. -/
theorem opened_openLibrary {names : List Bytes} {library next : FunctionsLibrary Handle Symbol}
    (opened : Opened asserts linker names library) {name : Bytes} {handle : Option Handle}
    (opens : library.openLibrary asserts linker name = some (next, handle)) :
    Opened asserts linker (names ++ [name]) next ∧ next.functions = library.functions ∧
      handle = linker.dlopen (libraryPath name) ∧ (asserts = true -> handle ≠ none) := by
  unfold openLibrary at opens
  split at opens
  · rename_i known found
    cases opens
    refine ⟨⟨?_, opened.handles, opened.opened⟩, rfl, opened.handles name handle found⟩
    intro other
    rw [opened.named, List.mem_append, List.mem_singleton, iff_self_or]
    rintro rfl
    exact (opened.named other).mp (AList.lookup_isSome.mp (found ▸ rfl))
  · rename_i unknown
    rcases Option.map_eq_some_iff.mp opens with ⟨fresh, made, same⟩
    cases same
    have passed := assertPointer_eq_some made
    have checked : asserts = true -> handle ≠ none := by
      rw [passed.1]
      exact passed.2
    have new : name ∉ library.libraries := AList.lookup_eq_none.mp unknown
    refine ⟨⟨?_, ?_, ?_⟩, rfl, passed.1, checked⟩
    · intro other
      dsimp only
      rw [AList.mem_insert, opened.named, List.mem_append, List.mem_singleton, or_comm]
    · intro other held found
      dsimp only at found
      by_cases same : other = name
      · rw [same, AList.lookup_insert] at found
        rw [same, ← Option.some.inj found]
        exact ⟨passed.1, checked⟩
      · rw [AList.lookup_insert_ne same] at found
        exact opened.handles other held found
    · have keys : (library.libraries.insert name handle).keys = name :: library.libraries.keys :=
        congrArg List.keys (AList.entries_insert_of_notMem new)
      dsimp only
      rw [keys, List.map_cons, List.reverse_cons, opened.opened]

/-- A library that ends the program does not open, and that is asserted. -/
theorem openLibrary_eq_none {library : FunctionsLibrary Handle Symbol} {name : Bytes}
    (ended : library.openLibrary asserts linker name = none) :
    asserts = true ∧ linker.dlopen (libraryPath name) = none := by
  unfold openLibrary at ended
  split at ended
  · cases ended
  · exact assertPointer_eq_none (Option.map_eq_none_iff.mp ended)

/-- The symbol of an entry joins the table of functions. -/
theorem loaded_insert {entries : List ConfigEntry} {library next : FunctionsLibrary Handle Symbol}
    (loaded : Loaded asserts linker entries library) {entry : ConfigEntry} {libraryName : Bytes}
    (named : entry.libraryName = some libraryName)
    (libraries : Opened asserts linker (mentioned entries ++ [libraryName]) next)
    (kept : next.functions = library.functions) :
    Loaded asserts linker (entries ++ [entry])
      { next with functions := next.functions.insert entry.key (symbolOf linker entry) } := by
  constructor
  · intro name
    rw [lastEntry_append]
    unfold getFunction
    dsimp only
    by_cases same : entry.key = name
    · rw [if_pos same, ← same, AList.lookup_insert]
      rfl
    · rw [if_neg same, AList.lookup_insert_ne (Ne.symm same), kept]
      exact loaded.functions name
  · have more : mentioned (entries ++ [entry]) = mentioned entries ++ [libraryName] := by
      unfold mentioned
      rw [List.filterMap_append, List.filterMap_cons_some named, List.filterMap_nil]
    rw [more]
    exact ⟨libraries.named, libraries.handles, libraries.opened⟩

/-- The turn of an entry ends the program exactly if the entry is rejected. -/
theorem loadEntry_loaded {entries : List ConfigEntry} {library : FunctionsLibrary Handle Symbol}
    (loaded : Loaded asserts linker entries library) (entry : ConfigEntry) :
    match loadEntry asserts linker library entry with
    | none => Rejected asserts linker entry
    | some next => ¬ Rejected asserts linker entry ∧
        Loaded asserts linker (entries ++ [entry]) next := by
  have meaning := symbolOf.eq_1 linker entry
  unfold loadEntry
  cases function : entry.functionName with
  | none => exact .unnamed function
  | some functionName =>
      cases named : entry.libraryName with
      | none => exact .unplaced named
      | some libraryName =>
          rw [function, named] at meaning
          dsimp only [Option.bind_eq_bind, Option.bind_some] at meaning ⊢
          cases opens : library.openLibrary asserts linker libraryName with
          | none =>
              have ended := openLibrary_eq_none opens
              exact .unopened ended.1 libraryName named ended.2
          | some opened =>
              rcases opened with ⟨next, used⟩
              rcases opened_openLibrary loaded.libraries opens with ⟨libraries, kept, handle, open'⟩
              rw [← handle] at meaning
              dsimp only [Option.bind_some]
              rw [← meaning]
              cases found : assertPointer asserts (symbolOf linker entry) with
              | none =>
                  have ended := assertPointer_eq_none found
                  exact .unresolved ended.1 ended.2
              | some symbol =>
                  have passed := assertPointer_eq_some found
                  rw [passed.1]
                  refine ⟨?_, loaded_insert loaded named libraries kept⟩
                  intro rejected
                  cases rejected with
                  | unnamed missing => cases function.symm.trans missing
                  | unplaced missing => cases named.symm.trans missing
                  | unopened asserted name same missing =>
                      cases named.symm.trans same
                      exact open' asserted (handle.trans missing)
                  | unresolved asserted missing => exact passed.2 asserted missing

/-- The loop over more entries ends the program exactly if one of them is
rejected. -/
theorem foldlM_loaded {before : List ConfigEntry} {library : FunctionsLibrary Handle Symbol}
    (loaded : Loaded asserts linker before library) (entries : List ConfigEntry) :
    match entries.foldlM (loadEntry asserts linker) library with
    | none => Exists fun entry => entry ∈ entries ∧ Rejected asserts linker entry
    | some final => (forall entry, entry ∈ entries -> ¬ Rejected asserts linker entry) ∧
        Loaded asserts linker (before ++ entries) final := by
  induction entries generalizing before library with
  | nil =>
      refine ⟨fun _ member => False.elim (List.not_mem_nil member), ?_⟩
      rw [List.append_nil]
      exact loaded
  | cons entry rest inductionHypothesis =>
      have first := loadEntry_loaded loaded entry
      rw [List.foldlM_cons]
      cases turn : loadEntry asserts linker library entry with
      | none =>
          rw [turn] at first
          exact ⟨entry, List.mem_cons_self, first⟩
      | some next =>
          rw [turn] at first
          have later := inductionHypothesis first.2
          rw [List.append_assoc, List.singleton_append] at later
          dsimp only [Option.bind_eq_bind, Option.bind_some]
          cases result : rest.foldlM (loadEntry asserts linker) next with
          | none =>
              rw [result] at later
              rcases later with ⟨other, member, rejected⟩
              exact ⟨other, List.mem_cons_of_mem _ member, rejected⟩
          | some final =>
              rw [result] at later
              refine ⟨?_, later.2⟩
              intro other member
              rcases List.mem_cons.mp member with rfl | inside
              · exact first.1
              · exact later.1 other inside

/-! ## The functions of a session that has loaded them -/

/-- The invocation of a name calls the symbol of the last entry of that name, or
is answered with an error. -/
theorem invoke_toFunctions {Memory : Type} {entries : List ConfigEntry}
    {library : FunctionsLibrary Handle Symbol} (loaded : Loaded asserts linker entries library)
    (code : Symbol -> Bytes -> Bytes -> Memory -> SingleThread.Result Memory) (memory : Memory)
    (item : PendingAllocation) :
    SingleThread.invoke (library.toFunctions code) memory item =
      match (lastEntry entries item.functionName).bind (symbolOf linker) with
      | none => (.failed .unknownFunction, memory)
      | some symbol =>
          let result := code symbol item.payload item.functionId memory
          (.function result.payloads result.returnCode, result.memory) := by
  unfold SingleThread.invoke toFunctions
  rw [loaded.functions]
  cases (lastEntry entries item.functionName).bind (symbolOf linker) <;> rfl

/-- `dlopen` is called once for every mentioned library, and the destructor goes
over every pointer that it has returned, once for each call. -/
theorem opened_closed {names : List Bytes} {library : FunctionsLibrary Handle Symbol}
    (opened : Opened asserts linker names library) :
    Exists fun distinct : List Bytes => distinct.Nodup ∧
      (forall name, name ∈ distinct ↔ name ∈ names) ∧
      library.opened = distinct.map libraryPath ∧
      library.closed.Perm (library.opened.map linker.dlopen) := by
  refine ⟨library.libraries.keys.reverse, List.nodup_reverse.mpr library.libraries.keys_nodup, ?_,
    ?_, ?_⟩
  · intro name
    rw [List.mem_reverse, ← AList.mem_keys, opened.named]
  · rw [opened.opened, List.map_reverse]
  · have handles : library.closed =
        (library.libraries.keys.map libraryPath).map linker.dlopen := by
      unfold closed AList.keys List.keys
      rw [List.map_map, List.map_map]
      apply List.map_congr_left
      intro entry member
      exact (opened.handles entry.1 entry.2 (AList.mem_lookup_iff.mpr member)).1
    rw [handles, opened.opened, List.map_reverse]
    exact (List.reverse_perm _).symm

end Loading

/-- The functions of a session, in a build with assertions and in one without.
Loading ends the program exactly if the configuration cannot be read or one of
its entries is rejected.  Otherwise an invocation calls the symbol of the last
entry with its name, or is answered as unknown when there is none; `dlopen` is
called once for every library, however many entries mention it, and the
destructor goes over each pointer that it has returned as often. -/
theorem functions_loaded {Memory : Type} (asserts : Bool) (linker : Linker Handle Symbol)
    (configuration : Option (List ConfigEntry))
    (code : Symbol -> Bytes -> Bytes -> Memory -> SingleThread.Result Memory) :
    match load asserts linker configuration with
    | none => configuration = none ∨ Exists fun entries => configuration = some entries ∧
        Exists fun entry => entry ∈ entries ∧ Rejected asserts linker entry
    | some library => Exists fun entries => configuration = some entries ∧
        (forall entry, entry ∈ entries -> ¬ Rejected asserts linker entry) ∧
        (forall memory item, SingleThread.invoke (library.toFunctions code) memory item =
          match (lastEntry entries item.functionName).bind (symbolOf linker) with
          | none => (.failed .unknownFunction, memory)
          | some symbol =>
              let result := code symbol item.payload item.functionId memory
              (.function result.payloads result.returnCode, result.memory)) ∧
        Exists fun names : List Bytes => names.Nodup ∧
          (forall name, name ∈ names ↔ name ∈ mentioned entries) ∧
          library.opened = names.map libraryPath ∧
          library.closed.Perm (library.opened.map linker.dlopen) := by
  cases configuration with
  | none => exact Or.inl rfl
  | some entries =>
      have all := foldlM_loaded (loaded_empty : Loaded asserts linker [] empty) entries
      rw [List.nil_append] at all
      unfold load
      dsimp only [Option.bind_eq_bind, Option.bind_some]
      cases result : entries.foldlM (loadEntry asserts linker) empty with
      | none =>
          rw [result] at all
          exact Or.inr ⟨entries, rfl, all⟩
      | some library =>
          rw [result] at all
          exact ⟨entries, rfl, all.1, invoke_toFunctions all.2 code, opened_closed all.2.libraries⟩

end FunctionsLibrary
end Execution
end Praas
