import AnselmGateway.Foundation.Bytes
import Mathlib.Data.List.TakeWhile

/-! A stream read line by line through a buffer of bounded size. Whether a line is
given depends on how long it is and on whether the stream has ended behind it. -/
namespace AnselmGateway.Foundation

def newline : UInt8 := 0x0A

/-- A stream, by all that reading it gives: the bytes that come without an error,
those that come with the ending, and whether that is an error rather than the end. -/
structure Stream where
  text : Bytes
  last : Bytes
  failed : Bool
  deriving DecidableEq

/-- Every byte of the stream. -/
def Stream.bytes (s : Stream) : Bytes := s.text ++ s.last

/-- The lines a newline ends, and what is behind the last of them. -/
def cutLines : Bytes → List Bytes × Bytes
  | [] => ([], [])
  | c :: rest =>
    let cut := cutLines rest
    if c = newline then ([] :: cut.1, cut.2)
    else match cut.1 with
      | [] => ([], c :: cut.2)
      | line :: lines => ((c :: line) :: lines, cut.2)

/-- The lines of a text; what is behind the last newline is one, unless it is empty. -/
def rawLines (text : Bytes) : List Bytes :=
  let cut := cutLines text
  if cut.2 = [] then cut.1 else cut.1 ++ [cut.2]

/-- They as `ScanLines` gives them, without the carriage return. -/
def linesOf (text : Bytes) : List Bytes := (rawLines text).map dropCR

/-- What a `bufio.Scanner` gives of a stream: its lines, each with whether the stream
had ended when it was given, and whether a line was too long for the buffer. -/
structure Scan where
  lines : List (Bytes × Bool)
  tooLong : Bool
  deriving DecidableEq

/-- A `bufio.Scanner` whose buffer may grow to `limit` bytes. A line that fills the
buffer before its newline or the ending is read is too long. -/
def Stream.scan (limit : ℕ) (s : Stream) : Scan :=
  let cut := cutLines s.text
  let fitting := cut.1.takeWhile fun line => line.length < limit
  let early := fitting.map fun line => (dropCR line, false)
  if fitting.length < cut.1.length || limit ≤ cut.2.length then ⟨early, true⟩
  else ⟨early ++ (linesOf (cut.2 ++ s.last)).map fun line => (line, true), false⟩

/-! ## Lines -/

section Lines
variable {text more : Bytes}

theorem cutLines_append : cutLines (text ++ more) =
    ((cutLines text).1 ++ (cutLines ((cutLines text).2 ++ more)).1,
      (cutLines ((cutLines text).2 ++ more)).2) := by
  induction text with
  | nil => rfl
  | cons c text ih =>
    simp only [List.cons_append, cutLines, ih]
    by_cases ends : c = newline
    · simp only [ends, if_true, List.cons_append]
    · simp only [ends, if_false]
      cases (cutLines text).1 with
      | nil => simp only [List.nil_append, List.cons_append, cutLines, ends, if_false]
      | cons line lines => rfl

theorem rawLines_append :
    rawLines (text ++ more) = (cutLines text).1 ++ rawLines ((cutLines text).2 ++ more) := by
  rw [rawLines, cutLines_append, rawLines]
  dsimp only
  split
  · rfl
  · rw [List.append_assoc]

theorem linesOf_append : linesOf (text ++ more) =
    (cutLines text).1.map dropCR ++ linesOf ((cutLines text).2 ++ more) := by
  rw [linesOf, rawLines_append, List.map_append, linesOf]

/-- A text without a newline stands at the front of the first line. -/
theorem cutLines_front (plain : newline ∉ text) : cutLines (text ++ more) =
    match (cutLines more).1 with
    | [] => ([], text ++ (cutLines more).2)
    | line :: lines => ((text ++ line) :: lines, (cutLines more).2) := by
  induction text with
  | nil =>
    cases cut : cutLines more with
    | mk lines tail =>
      simp only [List.nil_append, cut]
      cases lines <;> rfl
  | cons c text ih =>
    rw [List.mem_cons, not_or] at plain
    rw [List.cons_append, cutLines, ih plain.2, if_neg (Ne.symm plain.1)]
    cases (cutLines more).1 <;> rfl

/-- No newline is left behind the last line. -/
theorem newline_notMem_cutLines : newline ∉ (cutLines text).2 := by
  induction text with
  | nil => exact List.not_mem_nil
  | cons c text ih =>
    rw [cutLines]
    split
    · exact ih
    · rename_i other
      split
      · rw [List.mem_cons, not_or]
        exact ⟨Ne.symm other, ih⟩
      · exact ih

/-- The first line is as long as what stands at its front. -/
theorem rawLines_front (plain : newline ∉ text) (some_ : text ≠ []) :
    ∃ line ∈ rawLines (text ++ more), text.length ≤ line.length := by
  have nonempty {line : Bytes} : text ++ line ≠ [] := by simp [some_]
  rw [rawLines, cutLines_front plain]
  cases (cutLines more).1 with
  | nil =>
    dsimp only
    rw [if_neg nonempty]
    exact ⟨_, List.mem_singleton_self _, by simp⟩
  | cons line lines =>
    refine ⟨text ++ line, ?_, by simp⟩
    dsimp only
    split
    · exact List.mem_cons_self
    · exact List.mem_append_left _ List.mem_cons_self

end Lines

/-! ## Scans -/

section Scan
variable {limit : ℕ} {s : Stream}

/-- The lines that are given are the first of the stream. -/
theorem scan_prefix : (s.scan limit).lines.map Prod.fst <+: linesOf s.bytes := by
  have early : (cutLines s.text).1.takeWhile (fun line => line.length < limit) <+:
      (cutLines s.text).1 := List.takeWhile_prefix _
  rw [Stream.bytes, linesOf_append]
  unfold Stream.scan
  dsimp only
  split
  · simp only [List.map_map]
    exact (early.map dropCR).trans (List.prefix_append _ _)
  · rename_i fits
    simp only [Bool.or_eq_true, decide_eq_true_eq, not_or, Nat.not_lt] at fits
    have all := early.eq_of_length (Nat.le_antisymm early.length_le fits.1)
    simp only [List.map_append, List.map_map, all, Function.comp_def, List.map_id']
    exact List.prefix_refl _

/-- Lines that fit the buffer are all given. -/
theorem scan_bounded (bounded : ∀ line ∈ rawLines s.bytes, line.length < limit) (some_ : 0 < limit) :
    (s.scan limit).lines.map Prod.fst = linesOf s.bytes ∧ (s.scan limit).tooLong = false := by
  rw [Stream.bytes, rawLines_append] at bounded
  have all : (cutLines s.text).1.takeWhile (fun line => line.length < limit) = (cutLines s.text).1 := by
    refine List.takeWhile_eq_self_iff.mpr fun line member => ?_
    exact decide_eq_true (bounded line (List.mem_append_left _ member))
  have fits : (cutLines s.text).2.length < limit := by
    by_cases empty : (cutLines s.text).2 = []
    · rw [empty]
      exact some_
    · obtain ⟨line, member, long⟩ := (rawLines_front newline_notMem_cutLines empty : ∃ line ∈ rawLines ((cutLines s.text).2 ++ s.last), _)
      exact Nat.lt_of_le_of_lt long (bounded line (List.mem_append_right _ member))
  unfold Stream.scan
  dsimp only
  rw [all, if_neg (by simpa using fits)]
  constructor
  · have whole : linesOf (s.text ++ s.last) = _ := linesOf_append
    rw [Stream.bytes, whole]
    simp only [List.map_append, List.map_map, Function.comp_def, List.map_id']
  · rfl

/-- Behind a line that is too long nothing is given. -/
theorem scan_tooLong {line rest : Bytes} (plain : newline ∉ line) (long : limit ≤ line.length)
    (text : s.text = line ++ rest) : s.scan limit = ⟨[], true⟩ := by
  have front : cutLines (line ++ rest) = _ := cutLines_front plain
  unfold Stream.scan
  rw [text, front]
  cases (cutLines rest).1 with
  | nil =>
    have part : limit ≤ line.length + (cutLines rest).2.length := by omega
    simp [part]
  | cons first lines =>
    have long : ¬ line.length + first.length < limit := by omega
    simp [long]

end Scan
end AnselmGateway.Foundation
