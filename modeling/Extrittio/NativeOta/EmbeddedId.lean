import Extrittio.NativeOta.Calls

/-!
The device id inside a firmware image. A fixed slot of the binary holds a marker and 64 bytes
for the id, padded with zeros; an update is patched with the id of its device before it is
installed. A slice outside of the image panics.
-/
namespace Extrittio

open List

namespace EmbeddedId

def embedMarkerLen : ℕ := 23

def embedIdCapacity : ℕ := 64

/-- The marker, assembled from two halves, and eight of the zeros behind it. -/
@[irreducible] def needle : Image :=
  "<<EXTRITTIO_".toUTF8.data.toList ++ "DEVICE_ID>>".toUTF8.data.toList ++ List.replicate 8 0

def asBytes (deviceId : String) : Image := deviceId.toUTF8.data.toList

def readEmbeddedDeviceId (embeddedSlot : Image) : Option String := do
  guard (embedMarkerLen + embedIdCapacity ≤ embeddedSlot.length)
  let idImage := (embeddedSlot.drop embedMarkerLen).take embedIdCapacity
  let stop := idImage.findIdx (· = 0)
  guard (stop ≠ 0)
  String.fromUTF8? (idImage.take stop).toByteArray

/-- The first window of the image that equals the needle. -/
def position (image needle : Image) : Option ℕ :=
  (List.range (image.length + 1 - needle.length)).find? fun start =>
    (image.drop start).take needle.length = needle

def write (image : Image) (start : ℕ) (new : Image) : Option Image :=
  if start + new.length ≤ image.length then
    some (image.take start ++ new ++ image.drop (start + new.length))
  else none

def patchDeviceIdInBinary (image : Image) (deviceId : String) : Option (Image × Bool) :=
  match position image needle with
  | none => some (image, false)
  | some pos => do
    let idStart := pos + embedMarkerLen
    let idImage := asBytes deviceId
    let copyLen := min idImage.length embedIdCapacity
    let image ← write image idStart (idImage.take copyLen)
    let image ← write image (idStart + copyLen) (List.replicate (embedIdCapacity - copyLen) 0)
    return (image, true)

/-- Where the first marker of the image stands. -/
def MarkedAt (image : Image) (pos : ℕ) : Prop :=
  needle <+: image.drop pos ∧ ∀ earlier < pos, ¬needle <+: image.drop earlier

variable {image new patched : Image} {start pos : ℕ} {deviceId : String}

theorem needle_length : needle.length = 31 := by decide +kernel

theorem window_eq_needle : (image.drop pos).take needle.length = needle ↔ needle <+: image.drop pos := by
  rw [prefix_iff_eq_take, eq_comm]

theorem position_eq_some : position image needle = some pos ↔ MarkedAt image pos := by
  simp only [position, find?_range_eq_some, decide_eq_true_eq, window_eq_needle, Bool.not_eq_true',
    decide_eq_false_iff_not, mem_range, MarkedAt]
  constructor
  · rintro ⟨hfound, -, hfirst⟩
    exact ⟨hfound, hfirst⟩
  · rintro ⟨hfound, hfirst⟩
    have hlength := hfound.length_le
    rw [needle_length, length_drop] at hlength
    exact ⟨hfound, by rw [needle_length]; omega, hfirst⟩

theorem infix_iff_markedAt : needle <:+: image ↔ ∃ pos, MarkedAt image pos := by
  constructor
  · rintro ⟨before, after, rfl⟩
    have hexists : ∃ pos, needle <+: (before ++ needle ++ after).drop pos := by
      refine ⟨before.length, ?_⟩
      rw [append_assoc, drop_left]
      exact prefix_append needle after
    classical
    exact ⟨Nat.find hexists, Nat.find_spec hexists, fun _ => Nat.find_min hexists⟩
  · rintro ⟨pos, hfound, -⟩
    exact hfound.isInfix.trans (drop_suffix pos image).isInfix

/-- Two writes one after another are one. -/
theorem write_write {first second : Image} :
    (write image start first).bind (fun image => write image (start + first.length) second) =
      write image start (first ++ second) := by
  simp only [write, length_append]
  by_cases hfirst : start + first.length ≤ image.length
  · have hlength : (image.take start ++ first ++ image.drop (start + first.length)).length =
        image.length := by
      simp only [length_append, length_take, length_drop]
      omega
    have hbefore : (image.take start ++ first).length = start + first.length := by
      rw [length_append, length_take]
      omega
    rw [if_pos hfirst, Option.bind_some, hlength, ← add_assoc]
    congr 2
    rw [take_left' hbefore, drop_append, drop_drop, hbefore,
      drop_eq_nil_of_le (by omega)]
    simp
  · rw [if_neg hfirst, if_neg (by omega)]
    rfl

def padded (deviceId : String) : Image :=
  asBytes deviceId ++ List.replicate (embedIdCapacity - (asBytes deviceId).length) 0

theorem fromUTF8?_asBytes : String.fromUTF8? (asBytes deviceId).toByteArray = some deviceId := by
  have hbytes : (asBytes deviceId).toByteArray = deviceId.toUTF8 := by
    rw [ByteArray.ext_iff, data_toByteArray, asBytes, Array.toArray_toList]
  rw [hbytes]
  exact dif_pos deviceId.isValidUTF8

section

variable (hcapacity : (asBytes deviceId).length ≤ 64)

include hcapacity

theorem length_padded : (padded deviceId).length = 64 := by
  rw [padded, length_append, length_replicate]
  exact Nat.add_sub_cancel' hcapacity

theorem patchDeviceIdInBinary_of_markedAt (hmarked : MarkedAt image pos) :
    patchDeviceIdInBinary image deviceId =
      if pos + 87 ≤ image.length then
        some (image.take (pos + 23) ++ padded deviceId ++ image.drop (pos + 87), true)
      else none := by
  have hpatch : patchDeviceIdInBinary image deviceId =
      (write image (pos + embedMarkerLen) (padded deviceId)).map (·, true) := by
    rw [padded, ← write_write, Option.map_bind]
    simp only [patchDeviceIdInBinary, position_eq_some.mpr hmarked,
      min_eq_left (b := embedIdCapacity) hcapacity, take_length, Option.bind_eq_bind,
      Option.pure_def]
    exact Option.bind_congr fun image _ => Option.map_eq_bind.symm
  rw [hpatch, write, length_padded hcapacity, apply_ite (Option.map _)]
  rfl

theorem getElem?_patched (hroom : pos + 87 ≤ image.length) {i : ℕ}
    (hi : i < pos + 23 ∨ pos + 87 ≤ i) :
    (image.take (pos + 23) ++ padded deviceId ++ image.drop (pos + 87))[i]? = image[i]? := by
  have hbefore : (image.take (pos + 23)).length = pos + 23 := length_take_of_le (by omega)
  have hwritten : (image.take (pos + 23) ++ padded deviceId).length = pos + 87 := by
    rw [length_append, hbefore, length_padded hcapacity]
  rcases hi with hi | hi
  · rw [append_assoc, getElem?_append_left (by omega), getElem?_take_of_lt hi]
  · rw [getElem?_append_right (by omega), hwritten, getElem?_drop, Nat.add_sub_cancel' hi]

theorem readEmbeddedDeviceId_padded {marker rest : Image} (hmarker : marker.length = 23)
    (hnonempty : asBytes deviceId ≠ []) (hzero : 0 ∉ asBytes deviceId) :
    readEmbeddedDeviceId (marker ++ (padded deviceId ++ rest)) = some deviceId := by
  have hlength := length_padded hcapacity
  have hid : ((marker ++ (padded deviceId ++ rest)).drop embedMarkerLen).take embedIdCapacity =
      padded deviceId := by
    rw [embedMarkerLen, embedIdCapacity, drop_left' hmarker, take_left' hlength]
  have hstop : (padded deviceId).findIdx (· = 0) = (asBytes deviceId).length := by
    have hnone : (asBytes deviceId).findIdx (· = 0) = (asBytes deviceId).length := by
      rw [findIdx_eq_length]
      intro byte hbyte
      exact decide_eq_false fun h => hzero (h ▸ hbyte)
    rw [padded, findIdx_append, hnone, if_neg (lt_irrefl _)]
    cases embedIdCapacity - (asBytes deviceId).length with
    | zero => simp
    | succ n => simp [replicate_succ, findIdx_cons]
  have hroom : embedMarkerLen + embedIdCapacity ≤ (marker ++ (padded deviceId ++ rest)).length := by
    simp only [length_append, hmarker, hlength, embedMarkerLen, embedIdCapacity]
    omega
  simp only [readEmbeddedDeviceId, hid, hstop, guard, if_pos hroom]
  rw [if_pos (by simpa using hnonempty), padded, take_left]
  exact fromUTF8?_asBytes

end

/-- A patch panics exactly if the image ends inside the slot of the first marker. Otherwise it
reports whether there is a marker, and it changes nothing but the id of the first one, which
reads as the device id afterwards. -/
theorem patchDeviceIdInBinary_sound_iff (image : Image) {deviceId : String}
    (hnonempty : asBytes deviceId ≠ []) (hcapacity : (asBytes deviceId).length ≤ 64)
    (hzero : 0 ∉ asBytes deviceId) :
    ((∃ patched found, patchDeviceIdInBinary image deviceId = some (patched, found)) ↔
      ∀ pos, MarkedAt image pos → pos + 87 ≤ image.length) ∧
    ∀ patched found, patchDeviceIdInBinary image deviceId = some (patched, found) →
      (found = true ↔ needle <:+: image) ∧ (found = false → patched = image) ∧
      ∀ pos, MarkedAt image pos →
        (∀ i, i < pos + 23 ∨ pos + 87 ≤ i → patched[i]? = image[i]?) ∧
        readEmbeddedDeviceId (patched.drop pos) = some deviceId := by
  cases hposition : position image needle with
  | none =>
    have hpatch : patchDeviceIdInBinary image deviceId = some (image, false) := by
      rw [patchDeviceIdInBinary, hposition]
    have hunmarked (pos : ℕ) : ¬MarkedAt image pos := by
      rw [← position_eq_some, hposition]
      exact nofun
    refine ⟨iff_of_true ⟨_, _, hpatch⟩ fun pos hmarked => absurd hmarked (hunmarked pos), ?_⟩
    intro patched found h
    cases hpatch.symm.trans h
    refine ⟨iff_of_false Bool.false_ne_true ?_, fun _ => rfl, fun pos hmarked => ?_⟩
    · rw [infix_iff_markedAt]
      rintro ⟨pos, hmarked⟩
      exact hunmarked pos hmarked
    · exact absurd hmarked (hunmarked pos)
  | some pos =>
    have hmarked := position_eq_some.mp hposition
    have hfirst {pos' : ℕ} (h : MarkedAt image pos') : pos' = pos :=
      Option.some.inj ((position_eq_some.mpr h).symm.trans hposition)
    have hpatch := patchDeviceIdInBinary_of_markedAt hcapacity hmarked
    split_ifs at hpatch with hroom
    · refine ⟨iff_of_true ⟨_, _, hpatch⟩ fun pos' h => hfirst h ▸ hroom, fun patched found h => ?_⟩
      cases hpatch.symm.trans h
      refine ⟨iff_of_true rfl (infix_iff_markedAt.mpr ⟨pos, hmarked⟩), nofun, fun pos' h => ?_⟩
      obtain rfl := hfirst h
      refine ⟨fun i hi => getElem?_patched hcapacity hroom hi, ?_⟩
      have hbefore : (image.take (pos' + 23)).length = pos' + 23 := length_take_of_le (by omega)
      rw [append_assoc, drop_append_of_le_length (by omega)]
      exact readEmbeddedDeviceId_padded hcapacity (by rw [length_drop]; omega) hnonempty hzero
    · refine ⟨iff_of_false ?_ fun h => hroom (h pos hmarked), fun patched found h => ?_⟩
      · rintro ⟨patched, found, h⟩
        cases hpatch.symm.trans h
      · cases hpatch.symm.trans h

/-- An image that ends right behind the eight zeros. -/
theorem short_slot_panics : needle <:+: needle ∧ patchDeviceIdInBinary needle "sensor-1" = none :=
  ⟨infix_rfl, by decide +kernel⟩

theorem patchDeviceIdInBinary_sound_iff_sensor :
    let image := 7 :: (needle ++ List.replicate 60 0)
    ∃ patched found, patchDeviceIdInBinary image "sensor-1" = some (patched, found) ∧
      readEmbeddedDeviceId (patched.drop 1) = some "sensor-1" := by
  intro image
  have hmarked : MarkedAt image 1 := position_eq_some.mp (by decide +kernel)
  obtain ⟨hpatches, hsound⟩ := @patchDeviceIdInBinary_sound_iff image "sensor-1"
    (by decide +kernel) (by decide +kernel) (by decide +kernel)
  obtain ⟨patched, found, hpatch⟩ := hpatches.mpr fun pos hpos => by
    obtain rfl : pos = 1 :=
      Option.some.inj ((position_eq_some.mpr hpos).symm.trans (position_eq_some.mpr hmarked))
    decide +kernel
  exact ⟨patched, found, hpatch, ((hsound patched found hpatch).2.2 1 hmarked).2⟩

end EmbeddedId

end Extrittio
