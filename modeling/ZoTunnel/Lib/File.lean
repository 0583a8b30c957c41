import ZoTunnel.Lib.Bytes

/-!
# Files that are rewritten in place

What `std::fs::write` does to a file: `create` opens it, which truncates it, and a `Descriptor` then
puts the text into it in pieces, each at the writer's own offset. In between, the file holds a part
of the text. `Descriptor.Behind` says that it holds exactly the part that the writer has written,
and `Behind.read` that the whole text is read back when the writer is done.

`fromUtf8?` is the reading of bytes that fails on those which are not UTF-8.
-/

namespace Bytes

/-- Bytes as a string, if they are UTF-8. -/
def fromUtf8? (l : List UInt8) : Option String :=
  let s := fromUtf8Lossy l
  if asBytes s = l then some s else none

/-- The bytes that are read as a string are its UTF-8 form. -/
theorem fromUtf8?_eq_some_iff {l : List UInt8} {s : String} :
    fromUtf8? l = some s ↔ asBytes s = l := by
  unfold fromUtf8?
  dsimp only
  constructor
  · intro h
    split_ifs at h with hbytes
    rw [← Option.some.inj h, hbytes]
  · rintro rfl
    rw [fromUtf8Lossy_asBytes, if_pos rfl]

end Bytes

namespace FileSystem

open Bytes

/-- A file: whether its owner may read it, and its bytes. -/
structure File where
  readable : Bool
  bytes : List UInt8
  deriving DecidableEq, Repr

/-- `std::fs::read_to_string`, `none` when it fails. -/
def File.readToString (f : File) : Option String :=
  if f.readable then fromUtf8? f.bytes else none

/-- `std::fs::File::create`: a file that is there is truncated, and keeps its permissions. -/
def create (f : Option File) : File := ⟨(f.map (·.readable)).getD true, []⟩

/-- A write at an offset. A gap behind the end of the file is filled with zeros. -/
def File.writeAt (f : File) (offset : ℕ) (bytes : List UInt8) : File :=
  { f with
    bytes := f.bytes.take offset ++ List.replicate (offset - f.bytes.length) 0 ++ bytes ++
      f.bytes.drop (offset + bytes.length) }

/-- A file descriptor that a text is being written to: its offset, and what is left to write. -/
structure Descriptor where
  offset : ℕ
  rest : List UInt8
  deriving DecidableEq, Repr

/-- One `write` of `write_all`, which takes at most `n` bytes. -/
def Descriptor.write (w : Descriptor) (n : ℕ) (f : File) : Descriptor × File :=
  (⟨w.offset + (w.rest.take n).length, w.rest.drop n⟩, f.writeAt w.offset (w.rest.take n))

/-- The file holds what the writer has written of a text, and nothing else. -/
structure Descriptor.Behind (w : Descriptor) (f : File) (text : List UInt8) : Prop where
  offset : f.bytes.length = w.offset
  text : f.bytes ++ w.rest = text

/-- A write at the end of a file appends to it. -/
theorem File.writeAt_length (f : File) (bytes : List UInt8) :
    f.writeAt f.bytes.length bytes = { f with bytes := f.bytes ++ bytes } := by
  unfold writeAt
  rw [List.take_length, Nat.sub_self, List.drop_eq_nil_of_le (Nat.le_add_right _ _),
    List.replicate_zero, List.append_nil, List.append_nil]

/-- A write keeps the permissions. -/
theorem Descriptor.write_readable (w : Descriptor) (n : ℕ) (f : File) :
    (w.write n f).2.readable = f.readable := rfl

/-- A truncated file is behind a writer that has everything left to write. -/
theorem Descriptor.behind_create (f : Option File) (text : List UInt8) :
    Descriptor.Behind ⟨0, text⟩ (create f) text := ⟨rfl, rfl⟩

/-- A file stays behind its writer. -/
theorem Descriptor.Behind.write {w : Descriptor} {f : File} {text : List UInt8}
    (h : w.Behind f text) (n : ℕ) : (w.write n f).1.Behind (w.write n f).2 text := by
  unfold Descriptor.write
  dsimp only
  rw [← h.offset, File.writeAt_length]
  constructor
  · rw [List.length_append]
  · rw [List.append_assoc, List.take_append_drop, h.text]

/-- When nothing is left to write, the text is read back. -/
theorem Descriptor.Behind.read {w : Descriptor} {f : File} {text : String}
    (h : w.Behind f (asBytes text)) (hrest : w.rest = []) (hreadable : f.readable = true) :
    f.readToString = some text := by
  have hbytes : asBytes text = f.bytes := by
    rw [← h.text, hrest, List.append_nil]
  unfold File.readToString
  rw [if_pos hreadable, fromUtf8?_eq_some_iff]
  exact hbytes

end FileSystem
