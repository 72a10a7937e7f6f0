/-
Module: TilerMapping.Layout
Purpose: Sizes and alignments of the records exchanged with the driver.
Main exports: Layout, Layout.word, Layout.record, Layout.array
-/

namespace TilerMapping

/-- The bytes that a value takes in memory: its size and the multiple at which it starts. -/
structure Layout where
  size : Nat
  alignment : Nat
deriving Repr, DecidableEq

namespace Layout

/-- An unsigned or signed word of the given size starts at a multiple of its size. -/
def word (bytes : Nat) : Layout := ⟨bytes, bytes⟩

/-- The layout of a value without content. -/
def empty : Layout := ⟨0, 1⟩

/-- The least multiple of the alignment that is not below a position. -/
def align (alignment position : Nat) : Nat :=
  (position + alignment - 1) / alignment * alignment

/-- Fields in the order given, each at the next position its alignment allows; the whole is
padded to the largest alignment among them. -/
def record (fields : List Layout) : Layout :=
  let alignment := fields.foldl (fun a field => max a field.alignment) 1
  let content := fields.foldl (fun position field =>
    align field.alignment position + field.size) 0
  ⟨align alignment content, alignment⟩

/-- Elements of one layout, back to back. -/
def array (count : Nat) (element : Layout) : Layout :=
  ⟨count * element.size, element.alignment⟩

/-- Alternative readings of the same bytes. -/
def overlay (readings : List Layout) : Layout :=
  let alignment := readings.foldl (fun a reading => max a reading.alignment) 1
  ⟨align alignment (readings.foldl (fun size reading => max size reading.size) 0), alignment⟩

end Layout

end TilerMapping
