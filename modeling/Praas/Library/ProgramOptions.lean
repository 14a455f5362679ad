import Praas.Library.Decimal

namespace Praas
namespace Library

/-!
# The options of a program

A program is started with its path, options that are each followed by a value,
and flags.  The parser of its options gives the value of an option, by the type
of the value.

What a caller of such a program relies on is stated here for the options that a
program declares, and for any parser: an option takes the argument after it.
The options are told apart by their names, so they have to be given once.
-/

/-! ## Command lines -/

def optionArgument (name : Bytes) : Bytes := ascii "--" ++ name

/-- A program, options each followed by its value, and flags. -/
def commandLine (program : Bytes) (values : List (Bytes × Bytes)) (flags : List Bytes) :
    List Bytes :=
  program :: (values.flatMap (fun entry => [optionArgument entry.1, entry.2]) ++ flags)

/-- The options of a program: those with a text or a number as their value, and
the arguments of the others. -/
structure ProgramOptions where
  strings : List Bytes
  ints : List Bytes
  flags : List Bytes

/-- Every option is given once and, where a number is expected, has the text of
one; nothing but flags follows. -/
structure ProgramOptions.WellFormed (declared : ProgramOptions) (values : List (Bytes × Bytes))
    (flags : List Bytes) : Prop where
  once : (values.map Prod.fst).Nodup
  typed : forall entry, entry ∈ values -> entry.1 ∈ declared.strings ∨
    (entry.1 ∈ declared.ints ∧
      Exists fun number => IsSigned 4 number ∧ entry.2 = toDecimal number)
  flagged : forall flag, flag ∈ flags -> flag ∈ declared.flags

/-! ## Parsers -/

/-- The option parser: the value of an option, by type, for given arguments. -/
structure OptionParser where
  asString : List Bytes -> Bytes -> Bytes
  asInt : List Bytes -> Bytes -> Int
  asBool : List Bytes -> Bytes -> Bool

/-- An option with a value takes the argument that follows it, as it is or as
the number that it is the text of. -/
structure ProgramOptions.TakesNext (declared : ProgramOptions) (parser : OptionParser) : Prop where
  string : forall program values flags, declared.WellFormed values flags ->
    forall name value, (name, value) ∈ values -> name ∈ declared.strings ->
      parser.asString (commandLine program values flags) name = value
  int : forall program values flags, declared.WellFormed values flags ->
    forall name number, (name, toDecimal number) ∈ values -> name ∈ declared.ints ->
      IsSigned 4 number -> parser.asInt (commandLine program values flags) name = number

/-! ## A parser that follows the rules -/

def nextArgument (name : Bytes) : List Bytes -> Bytes
  | option :: value :: rest =>
      if option = optionArgument name then value else nextArgument name rest
  | _ => []

/-- A parser that looks for the options one after the other. -/
def scanningParser : OptionParser where
  asString arguments name := nextArgument name arguments.tail
  asInt arguments name := fromChars (nextArgument name arguments.tail) 0
  asBool arguments name := decide (optionArgument name ∈ arguments ∨
    (name = ascii "verbose" ∧ ascii "-v" ∈ arguments))

theorem nextArgument_commandLine {values : List (Bytes × Bytes)} {name value : Bytes}
    (once : (values.map Prod.fst).Nodup) (member : (name, value) ∈ values) (flags : List Bytes) :
    nextArgument name
      (values.flatMap (fun entry => [optionArgument entry.1, entry.2]) ++ flags) = value := by
  induction values with
  | nil => cases member
  | cons entry values inductionHypothesis =>
      rw [List.map_cons, List.nodup_cons] at once
      change (if optionArgument entry.1 = optionArgument name then entry.2 else nextArgument name
        (values.flatMap (fun entry => [optionArgument entry.1, entry.2]) ++ flags)) = value
      rcases List.mem_cons.mp member with here | later
      · rw [← here, if_pos rfl]
      · rw [if_neg, inductionHypothesis once.2 later]
        intro same
        have equal : entry.1 = name := List.append_cancel_left same
        exact once.1 (equal ▸ List.mem_map_of_mem later)

theorem scanningParser_takesNext (declared : ProgramOptions) :
    declared.TakesNext scanningParser where
  string _ _ flags wellFormed _ _ member _ := nextArgument_commandLine wellFormed.once member flags
  int program values flags wellFormed name number member _ signed := by
    change fromChars (nextArgument name
      (values.flatMap (fun entry => [optionArgument entry.1, entry.2]) ++ flags)) 0 = number
    rw [nextArgument_commandLine wellFormed.once member flags, fromChars_toDecimal signed]

end Library
end Praas
