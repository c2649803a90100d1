import Gridbot.Sink

/-!
# What a sink takes of a stream

A sink with a capacity takes the first bytes of all that is written to it, however the stream is
cut into writes and whether or not the writes before were refused. `Holds` states this of a sink
and the stream written so far.

* `holds_write`: a write keeps it.
* `write_snd_of_holds`: a write of at least one byte is refused exactly if the stream with it is
  longer than the capacity.
* `full_of_write_refused`, `Full.bytes_write`: a sink that refused a write takes nothing more.
-/

namespace Gridbot.Sink

/-- The part of a stream that a sink takes. -/
def clip : Option Nat → ByteArray → ByteArray
  | none, stream => stream
  | some most, stream => stream.extract 0 most

/-- A stream of this size is taken as a whole. -/
def Fits : Option Nat → Nat → Prop
  | none, _ => True
  | some most, size => size ≤ most

instance : (capacity : Option Nat) → (size : Nat) → Decidable (Fits capacity size)
  | none, _ => inferInstanceAs (Decidable True)
  | some most, size => inferInstanceAs (Decidable (size ≤ most))

/-- The sink holds what it takes of the stream. -/
def Holds (s : Sink) (stream : ByteArray) : Prop := s.bytes = clip s.capacity stream

/-! ## Clipping -/

theorem Fits.of_append {capacity : Option Nat} {a b : ByteArray}
    (h : Fits capacity (a ++ b).size) : Fits capacity a.size := by
  cases capacity with
  | none => trivial
  | some most =>
    rw [ByteArray.size_append] at h
    exact Nat.le_trans (Nat.le_add_right _ _) h

theorem clip_of_fits {capacity : Option Nat} {stream : ByteArray} (h : Fits capacity stream.size) :
    clip capacity stream = stream := by
  cases capacity with
  | none => rfl
  | some most =>
    have hm : max most stream.size = most := Nat.max_eq_left h
    have he := ByteArray.extract_zero_max_size (a := stream) (i := most)
    rw [hm] at he
    exact he

theorem fits_empty (capacity : Option Nat) : Fits capacity ByteArray.empty.size := by
  cases capacity with
  | none => trivial
  | some most => exact Nat.zero_le most

/-- What a sink takes of a stream is a beginning of it. -/
theorem clip_prefix (capacity : Option Nat) (stream : ByteArray) :
    (clip capacity stream).data.toList <+: stream.data.toList := by
  cases capacity with
  | none => exact List.prefix_refl _
  | some most =>
    have h : (clip (some most) stream).data.toList = stream.data.toList.take most := by
      simp [clip]
    rw [h]
    exact List.take_prefix most _

theorem clip_empty (capacity : Option Nat) : clip capacity .empty = .empty := by
  cases capacity <;> simp [clip]

/-- Behind the part taken so far, the part of the next write that fits is the next part. -/
theorem clip_append (capacity : Option Nat) (stream data : ByteArray) :
    clip capacity (stream ++ data) =
      clip capacity stream ++ data.extract 0 (room capacity (clip capacity stream).size data.size) := by
  cases capacity with
  | none => simp only [clip, room, ByteArray.extract_zero_size]
  | some most =>
    have hr : data.extract 0 (most - stream.size) =
        data.extract 0 (min data.size (most - min most stream.size)) := by
      rw [ByteArray.ext_iff, ByteArray.data_extract, ByteArray.data_extract,
        Array.extract_eq_extract_right, ByteArray.size_data]
      omega
    simp only [clip, room, ByteArray.extract_append, ByteArray.size_extract, Nat.zero_sub, hr,
      Nat.sub_zero]

/-- Nothing behind a stream that is too long is taken. -/
theorem clip_append_of_not_fits {capacity : Option Nat} {stream : ByteArray}
    (h : ¬Fits capacity stream.size) (data : ByteArray) :
    clip capacity (stream ++ data) = clip capacity stream := by
  cases capacity with
  | none => exact absurd trivial h
  | some most =>
    simp only [Fits] at h
    simp only [clip, ByteArray.extract_append, Nat.zero_sub,
      show most - stream.size = 0 by omega, ByteArray.extract_same, ByteArray.append_empty]

theorem room_eq_iff {capacity : Option Nat} {stream : ByteArray} {count : Nat} (h : 0 < count) :
    room capacity (clip capacity stream).size count = count ↔
      Fits capacity (stream.size + count) := by
  cases capacity with
  | none => simp [room, Fits]
  | some most =>
    simp only [room, Fits, clip, ByteArray.size_extract]
    omega

/-! ## Writing and flushing -/

@[simp] theorem capacity_write (s : Sink) (data : ByteArray) :
    (s.write data).1.capacity = s.capacity := rfl

@[simp] theorem capacity_flush (s : Sink) : s.flush.1.capacity = s.capacity := by
  unfold flush
  split
  split <;> rfl

@[simp] theorem refusesFlush_flush (s : Sink) : s.flush.1.refusesFlush = s.refusesFlush := by
  unfold flush
  split
  split <;> rfl

@[simp] theorem flushes_flush (s : Sink) : s.flush.1.flushes = s.flushes + 1 := by
  unfold flush
  split
  split <;> rfl

theorem flush_snd (s : Sink) :
    s.flush.2 = if s.refusesFlush then .error .flushRefused else .ok () := by
  unfold flush
  split
  split <;> simp_all

/-- The only refusal of a write is that the sink is full. -/
theorem write_snd_cases (s : Sink) (data : ByteArray) :
    (s.write data).2 = .ok () ∨ (s.write data).2 = .error .full := by
  have hw : (s.write data).2 =
      if room s.capacity s.bytes.size data.size = data.size then .ok () else .error .full := rfl
  rw [hw]
  split
  · exact Or.inl rfl
  · exact Or.inr rfl

theorem holds_write {s : Sink} {stream : ByteArray} (h : s.Holds stream) (data : ByteArray) :
    (s.write data).1.Holds (stream ++ data) := by
  unfold Holds at h ⊢
  rw [bytes_write, capacity_write, clip_append, h]

/-- **Refusal.** A write is refused exactly if the stream with it does not fit. -/
theorem write_snd_of_holds {s : Sink} {stream data : ByteArray} (h : s.Holds stream)
    (hd : 0 < data.size) :
    (s.write data).2 =
      if Fits s.capacity (stream ++ data).size then .ok () else .error .full := by
  unfold Holds at h
  have hw : (s.write data).2 =
      if room s.capacity s.bytes.size data.size = data.size then .ok () else .error .full := rfl
  rw [hw, h, ByteArray.size_append]
  simp only [room_eq_iff hd]

/-! ## Full sinks -/

/-- Nothing more fits. -/
def Full (s : Sink) : Prop := ∃ most, s.capacity = some most ∧ most ≤ s.bytes.size

theorem full_of_write_refused {s : Sink} {data : ByteArray} {e : SinkError}
    (h : (s.write data).2 = .error e) : (s.write data).1.Full := by
  have hw : (s.write data).2 =
      if room s.capacity s.bytes.size data.size = data.size then .ok () else .error .full := rfl
  rw [hw] at h
  cases hc : s.capacity with
  | none => simp [hc, room] at h
  | some most =>
    refine ⟨most, hc, ?_⟩
    have hunfit : room s.capacity s.bytes.size data.size ≠ data.size := by
      intro hfits
      rw [if_pos hfits] at h
      cases h
    rw [bytes_write, ByteArray.size_append, ByteArray.size_extract, hc]
    simp only [hc, room] at hunfit ⊢
    omega

theorem Full.bytes_write {s : Sink} (h : s.Full) (data : ByteArray) :
    (s.write data).1.bytes = s.bytes := by
  obtain ⟨most, hc, hfull⟩ := h
  have hroom : room s.capacity s.bytes.size data.size = 0 := by
    simp only [hc, room]
    omega
  rw [Sink.bytes_write, hroom, ByteArray.extract_same, ByteArray.append_empty]

theorem Full.write {s : Sink} (h : s.Full) (data : ByteArray) : (s.write data).1.Full := by
  obtain ⟨most, hc, hfull⟩ := h
  exact ⟨most, hc, by rwa [Full.bytes_write ⟨most, hc, hfull⟩ data]⟩

theorem Full.flush {s : Sink} (h : s.Full) : s.flush.1.Full := by
  obtain ⟨most, hc, hfull⟩ := h
  exact ⟨most, by rw [capacity_flush, hc], by rwa [bytes_flush]⟩

end Gridbot.Sink
