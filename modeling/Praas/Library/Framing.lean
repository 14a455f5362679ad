import Mathlib.Data.List.Basic

namespace Praas
namespace Library

/-!
# Streams of self-delimiting messages

A receiver that can take one message off the front of a stream reads a stream
of messages by repeating this until nothing complete is left.  If the taker
undoes an encoder whatever follows the message, it returns the messages of a
concatenation of encodings in order.
-/

universe u v w

variable {Symbol : Type u} {Message : Type v} {Source : Type w}

/-- Take messages off a stream, at most `limit` of them. -/
def takeMessages (take : List Symbol -> Option (Message × List Symbol)) :
    Nat -> List Symbol -> List Message
  | 0, _ => []
  | limit + 1, stream =>
      match take stream with
      | none => []
      | some (message, rest) => message :: takeMessages take limit rest

/-- All messages of a stream.  A message has at least one symbol, so the
length of the stream is enough as a limit. -/
def decodeStream (take : List Symbol -> Option (Message × List Symbol)) (stream : List Symbol) :
    List Message :=
  takeMessages take stream.length stream

section Concatenation

variable {take : List Symbol -> Option (Message × List Symbol)}
  {encode : Source -> List Symbol} {meaning : Source -> Message}
  (taken : forall source rest, take (encode source ++ rest) = some (meaning source, rest))
  (ended : take [] = none)

include taken ended

theorem takeMessages_flatMap (sources : List Source) {limit : Nat}
    (enough : sources.length ≤ limit) :
    takeMessages take limit (sources.flatMap encode) = sources.map meaning := by
  induction sources generalizing limit with
  | nil =>
      cases limit with
      | zero => rfl
      | succ limit => simp only [List.flatMap_nil, takeMessages, ended, List.map_nil]
  | cons source sources inductionHypothesis =>
      cases limit with
      | zero => cases enough
      | succ limit =>
          have later := inductionHypothesis (Nat.le_of_succ_le_succ enough)
          simp only [List.flatMap_cons, takeMessages, taken, List.map_cons, later]

/-- A concatenation of encodings is read back message by message. -/
theorem decodeStream_flatMap (sources : List Source) :
    decodeStream take (sources.flatMap encode) = sources.map meaning := by
  have nonempty (source : Source) : 1 ≤ (encode source).length := by
    cases empty : encode source with
    | nil =>
        have found := taken source []
        rw [empty, List.nil_append, ended] at found
        cases found
    | cons symbol rest => exact Nat.succ_le_succ (Nat.zero_le _)
  have enough : sources.length ≤ (sources.flatMap encode).length := by
    induction sources with
    | nil => exact Nat.le_refl _
    | cons source sources inductionHypothesis =>
        have first := nonempty source
        rw [List.flatMap_cons, List.length_append, List.length_cons]
        omega
  exact takeMessages_flatMap taken ended sources enough

end Concatenation

/-! ## Packets of one width -/

/-- When the bytes of a sequence of packets begin with as many bytes as a
packet has, these are the first packet. -/
theorem split_first_packet {encode : Source -> List Symbol} {width : Nat}
    (wide : forall source, (encode source).length = width) (positive : 0 < width)
    {front tail : List Symbol} {sources : List Source} (full : front.length = width)
    (whole : front ++ tail = sources.flatMap encode) :
    Exists fun source => Exists fun rest => sources = source :: rest ∧ front = encode source ∧
      tail = rest.flatMap encode := by
  cases sources with
  | nil =>
      have empty := (List.append_eq_nil_iff.mp whole).1
      rw [empty, List.length_nil] at full
      omega
  | cons source rest =>
      rw [List.flatMap_cons] at whole
      have parts := List.append_inj whole (full.trans (wide source).symm)
      exact ⟨source, rest, rfl, parts.1, parts.2⟩

end Library
end Praas
