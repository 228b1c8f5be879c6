/-
Values kept one to a line: what a log of printed values reads back as.

A codec prints a value as a text and may read a text as a value.
`PrintsLine` is what a log needs of the text: it is a line, and not a blank
one. `RoundTrips` adds that the line is read back as the value. A text built
of such lines stands for the list of its values, whether the values were
appended one after the other (`lines_printed`) or written at once
(`parseLines_joined`).
-/
import GostlyProxy.Lib.Text

namespace Lib

structure LineCodec (α : Type*) where
  parse : Text → Option α
  print : α → Text

namespace LineCodec

variable {α : Type*} (codec : LineCodec α)

/-- The value is printed on one line, and not as blanks. -/
structure PrintsLine (a : α) : Prop where
  isLine : Text.IsLine (codec.print a)
  nonblank : Text.trim (codec.print a) ≠ []

/-- The line is read back as the value. -/
structure RoundTrips (a : α) : Prop extends codec.PrintsLine a where
  parse_print : codec.parse (codec.print a) = some a

/-- The values of the lines that can be read, in line order. -/
def parseLines (content : Text) : List α := (Text.lines content).filterMap codec.parse

variable {codec}

theorem PrintsLine.ne_nil {a : α} (h : codec.PrintsLine a) : codec.print a ≠ [] := by
  intro hnil
  apply h.nonblank
  rw [hnil]
  rfl

/-- Printed values are read back, in order. -/
theorem filterMap_printed {values : List α} (h : ∀ a ∈ values, codec.RoundTrips a) :
    (values.map codec.print).filterMap codec.parse = values := by
  induction values with
  | nil => rfl
  | cons a values ih =>
      rw [List.map_cons, List.filterMap_cons, (h a (List.mem_cons_self ..)).parse_print,
        ih fun b hb => h b (List.mem_cons_of_mem _ hb)]

/-- Values appended one after the other are the lines of the text. -/
theorem lines_printed {values : List α} (h : ∀ a ∈ values, codec.PrintsLine a) :
    Text.lines (values.flatMap fun a => codec.print a ++ ['\n']) = values.map codec.print := by
  induction values using List.reverseRecOn with
  | nil => rfl
  | append_singleton values a ih =>
      rw [List.flatMap_append, List.flatMap_singleton,
        Text.lines_append_line (Text.newlineTerminated_flatMap _ _) (h a (by simp)).isLine,
        List.map_append, ih fun b hb => h b (List.mem_append_left _ hb)]
      rfl

/-- None of the lines of printed values is blank. -/
theorem filter_nonblank {values : List α} (h : ∀ a ∈ values, codec.PrintsLine a) :
    (values.map codec.print).filter (fun l => !(Text.trim l).isEmpty)
      = values.map codec.print := by
  rw [List.filter_eq_self]
  intro l hl
  obtain ⟨a, ha, rfl⟩ := List.mem_map.mp hl
  simpa using (h a ha).nonblank

/-- A text written as joined lines is read back. -/
theorem parseLines_joined {values : List α} (hne : values ≠ [])
    (h : ∀ a ∈ values, codec.RoundTrips a) :
    codec.parseLines (Text.join ['\n'] (values.map codec.print) ++ ['\n']) = values := by
  unfold parseLines
  rw [Text.lines_join ?_ (List.map_eq_nil_iff.not.mpr hne), filterMap_printed h]
  intro l hl
  obtain ⟨a, ha, rfl⟩ := List.mem_map.mp hl
  exact (h a ha).isLine

end LineCodec

end Lib
