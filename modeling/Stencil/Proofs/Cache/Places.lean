import Mathlib.Data.String.Basic
import Stencil.Cache.Directory
import Stencil.Proofs.Disk.Paths

/-!
# Where cached texts lie

The place of a cached text ends in a name that is made of the digest of its key, so keys of different
digests never share a place.

* `CacheDirectory.digest_eq_of_place`: different digests, different places.
-/

namespace Stencil

namespace CacheDirectory

/-! ## Names -/

theorem length_sha256 (message : List UInt8) : (Digest.sha256 message).length = 32 := by
  simp [Digest.sha256, Digest.bigEndian_length]

theorem mem_hexByte {b : UInt8} {c : Char} (h : c ∈ Digest.hexByte b) :
    ∃ n < 16, c = Text.lowerHexDigit n := by
  have small : b.toNat < 256 := b.toNat_lt
  simp only [Digest.hexByte, List.mem_cons, List.not_mem_nil, or_false] at h
  rcases h with high | low
  · exact ⟨_, by omega, high⟩
  · exact ⟨_, by omega, low⟩

/-- A text of narrow characters has as many bytes. -/
theorem byteSize_of_narrow {s : String} (narrow : ∀ c ∈ s.toList, c.utf8Size = 1) :
    s.utf8ByteSize = s.toList.length := by
  rw [← String.ofList_toList (s := s), String.utf8ByteSize_ofList, String.ofList_toList]
  generalize s.toList = cs at narrow
  induction cs with
  | nil => rfl
  | cons c rest ih =>
      rw [String.utf8Len_cons, narrow c List.mem_cons_self, List.length_cons,
        ih fun other member => narrow other (List.mem_cons_of_mem c member)]

theorem narrow_hexByte {b : UInt8} {c : Char} (h : c ∈ Digest.hexByte b) : c.utf8Size = 1 := by
  have digits : ∀ n < 16, (Text.lowerHexDigit n).utf8Size = 1 := by decide
  obtain ⟨n, small, rfl⟩ := mem_hexByte h
  exact digits n small

/-- The name of the directory of a file. -/
def shardName (key : String) : String := String.ofList ((Digest.ofText key).toList.take 2)

/-- It consists of the digits of the first byte of the digest. -/
theorem toList_shardName (key : String) : ∃ b, (shardName key).toList = Digest.hexByte b := by
  have length := length_sha256 (Text.utf8 key)
  rw [shardName, Digest.ofText, String.toList_ofList, String.toList_ofList]
  generalize Digest.sha256 (Text.utf8 key) = bytes at length ⊢
  cases bytes with
  | nil => cases length
  | cons b rest => exact ⟨b, rfl⟩

theorem not_mem_shardName (key : String) {c : Char}
    (noDigit : ∀ n < 16, Text.lowerHexDigit n ≠ c) : c ∉ (shardName key).toList := by
  obtain ⟨b, hex⟩ := toList_shardName key
  intro member
  rw [hex] at member
  obtain ⟨n, small, same⟩ := mem_hexByte member
  exact noDigit n small same.symm

theorem noSlash_shardName (key : String) : '/' ∉ (shardName key).toList :=
  not_mem_shardName key (by decide)

theorem short_shardName (key : String) : (shardName key).utf8ByteSize ≤ 255 := by
  obtain ⟨b, hex⟩ := toList_shardName key
  have narrow : ∀ c ∈ (shardName key).toList, c.utf8Size = 1 := fun c member =>
    narrow_hexByte (hex ▸ member)
  rw [byteSize_of_narrow narrow, hex]
  simp [Digest.hexByte]

theorem shardName_ne_empty (key : String) : shardName key ≠ "" := by
  obtain ⟨b, hex⟩ := toList_shardName key
  intro empty
  rw [empty] at hex
  cases hex

theorem follow_shardName (place : DiskPath) (key : String) :
    Disk.follow place (shardName key) = place ++ [shardName key] := by
  have noPoint : '.' ∉ (shardName key).toList := not_mem_shardName key (by decide)
  refine Disk.follow_name (shardName_ne_empty key) ?_ ?_ <;> rintro same <;>
    rw [same] at noPoint <;> simp at noPoint

def fileName (key : String) : String := Digest.ofText key ++ ".json"

theorem noSlash_fileName (key : String) : '/' ∉ (fileName key).toList := by
  have digits : ∀ n < 16, Text.lowerHexDigit n ≠ '/' := by decide
  intro member
  rw [fileName, String.toList_append, List.mem_append, Digest.ofText,
    String.toList_ofList] at member
  rcases member with inDigest | inEnding
  · obtain ⟨b, -, inByte⟩ := List.mem_flatMap.1 inDigest
    obtain ⟨n, small, same⟩ := mem_hexByte inByte
    exact digits n small same.symm
  · exact absurd inEnding (by decide)

theorem short_fileName (key : String) : (fileName key).utf8ByteSize ≤ 255 := by
  have narrow : ∀ c ∈ (Digest.ofText key).toList, c.utf8Size = 1 := by
    intro c member
    rw [Digest.ofText, String.toList_ofList] at member
    obtain ⟨b, -, inByte⟩ := List.mem_flatMap.1 member
    exact narrow_hexByte inByte
  have length : (Digest.ofText key).toList.length = 64 := by
    rw [Digest.ofText, String.toList_ofList, List.length_flatMap]
    simp [Digest.hexByte, length_sha256]
  have ending : ".json".utf8ByteSize = 5 := by decide
  rw [fileName, String.utf8ByteSize_append, byteSize_of_narrow narrow, length, ending]
  decide

theorem follow_fileName (place : DiskPath) (key : String) :
    Disk.follow place (fileName key) = place ++ [fileName key] := by
  have long : 5 ≤ (fileName key).toList.length := by simp [fileName]
  refine Disk.follow_name ?_ ?_ ?_ <;> rintro same <;> rw [same] at long <;> simp at long

/-! ## Places -/

theorem shardOf_eq (c : CacheDirectory) (key : String) :
    c.shardOf key = Files.join c.root (shardName key) := rfl

theorem fileOf_eq (c : CacheDirectory) (key : String) :
    c.fileOf key = Files.join (c.shardOf key) (fileName key) := rfl

theorem shardOf_ne_empty {c : CacheDirectory} (named : c.root ≠ "") (key : String) : c.shardOf key ≠ "" :=
  Files.join_ne_empty named (noSlash_shardName key)

theorem placeOf_shardOf {c : CacheDirectory} (named : c.root ≠ "") (d : Disk) (key : String) :
    d.placeOf (c.shardOf key) = d.placeOf c.root ++ [shardName key] := by
  rw [shardOf_eq, Disk.placeOf_join named (noSlash_shardName key), follow_shardName]

/-- The place of a cached text is named by the digest of its key. -/
theorem placeOf_fileOf (c : CacheDirectory) (d : Disk) (key : String) :
    ∃ outer, d.placeOf (c.fileOf key) = outer ++ [fileName key] := by
  obtain ⟨outer, parts⟩ := Files.parts_join (c.shardOf key) (noSlash_fileName key)
  refine ⟨outer.foldl Disk.follow (d.origin (c.fileOf key)), ?_⟩
  have shape : Files.parts [] (c.fileOf key).toList = outer ++ [fileName key] := parts
  rw [Disk.placeOf, shape, List.foldl_append]
  exact follow_fileName _ key

theorem digest_eq_of_place (c : CacheDirectory) (d : Disk) {key other : String}
    (h : Disk.pathText (d.placeOf (c.fileOf key)) = Disk.pathText (d.placeOf (c.fileOf other))) :
    Digest.ofText key = Digest.ofText other := by
  obtain ⟨outer, place⟩ := c.placeOf_fileOf d key
  obtain ⟨further, more⟩ := c.placeOf_fileOf d other
  rw [place, more] at h
  have names := Disk.pathText_last (noSlash_fileName key) (noSlash_fileName other) h
  exact (String.append_left_inj ".json").1 names

end CacheDirectory

end Stencil
