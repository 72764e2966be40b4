import AytherRuntime.Library.Checked

/-! RIFF documents: a form and its chunks, each with its size and with a pad byte after odd data, and the WAVE form
with a format and its samples. -/
namespace AytherRuntime.Riff
open Codec Checked

section Chunks

structure Chunk where
  id : Bytes
  data : Bytes
  deriving DecidableEq, Repr

/-- Odd data is followed by one more byte, which its size does not count. -/
def pad (data : Bytes) : Bytes := if data.length % 2 = 0 then [] else [0]

def Chunk.write (chunk : Chunk) : Bytes :=
  chunk.id ++ (writeLe 4 chunk.data.length ++ (chunk.data ++ pad chunk.data))

def writeChunks (chunks : List Chunk) : Bytes := chunks.flatMap Chunk.write

/-- The chunk at the front of the bytes, and the bytes from the next even place on. -/
def readChunk (bytes : Bytes) : Option (Chunk × Bytes) :=
  let size := field bytes 4 4
  if bytes.length < 8 + size + size % 2 then none
  else some (⟨bytes.take 4,(bytes.drop 8).take size⟩,bytes.drop (8 + size + size % 2))

/-- The chunks of the bytes, at most so many of them, with nothing after the last one. -/
def readChunks : ℕ → Bytes → Option (List Chunk)
  | _,[] => some []
  | 0,_ :: _ => none
  | fuel + 1,byte :: bytes => (readChunk (byte :: bytes)).bind fun next => (readChunks fuel next.2).map (next.1 :: ·)

structure Chunk.Valid (chunk : Chunk) : Prop where
  id : chunk.id.length = 4
  data : chunk.data.length < 256 ^ 4

lemma length_pad (data : Bytes) : (pad data).length = data.length % 2 := by
  unfold pad
  by_cases h : data.length % 2 = 0
  · rw [if_pos h,h]
    rfl
  · rw [if_neg h]
    change 1 = _
    omega

lemma length_write {chunk : Chunk} (h : chunk.Valid) :
    chunk.write.length = 8 + chunk.data.length + chunk.data.length % 2 := by
  have hid := h.id
  simp only [Chunk.write,List.length_append,length_writeLe,length_pad,hid]
  omega

lemma readChunk_write {chunk : Chunk} (h : chunk.Valid) (rest : Bytes) :
    readChunk (chunk.write ++ rest) = some (chunk,rest) := by
  have hsize : field (chunk.write ++ rest) 4 4 = chunk.data.length := by
    apply field_written chunk.id (by simp only [Chunk.write,List.append_assoc]; rfl) h.id h.data
  have hid : (chunk.write ++ rest).take 4 = chunk.id := by
    rw [Chunk.write,List.append_assoc,List.take_left' h.id]
  have hdata : ((chunk.write ++ rest).drop 8).take chunk.data.length = chunk.data := by
    have hfront : (chunk.id ++ writeLe 4 chunk.data.length).length = 8 := by
      rw [List.length_append,length_writeLe,h.id]
    rw [Chunk.write,← List.append_assoc chunk.id,List.append_assoc (chunk.id ++ _),List.drop_left' hfront,
      List.append_assoc,List.take_left' rfl]
  unfold readChunk
  dsimp only
  rw [hsize,hid,hdata,← length_write h,if_neg (by rw [List.length_append]; omega),List.drop_left' rfl]

lemma write_append_cons {chunk : Chunk} (h : chunk.Valid) (rest : Bytes) :
    ∃ byte bytes, chunk.write ++ rest = byte :: bytes := by
  apply List.exists_cons_of_ne_nil
  intro hnil
  have hlength := length_write h
  rw [(List.append_eq_nil_iff.mp hnil).1] at hlength
  simp only [List.length_nil] at hlength
  omega

/-- One chunk is read before the others. -/
lemma readChunks_cons {chunk : Chunk} (h : chunk.Valid) (fuel : ℕ) (rest : Bytes) :
    readChunks (fuel + 1) (chunk.write ++ rest) = (readChunks fuel rest).map (chunk :: ·) := by
  have hread := readChunk_write h rest
  obtain ⟨byte,bytes,hbytes⟩ := write_append_cons h rest
  rw [hbytes] at hread ⊢
  rw [readChunks,hread,Option.bind_some]

lemma readChunks_write {chunks : List Chunk} (h : ∀ chunk ∈ chunks, chunk.Valid) {fuel : ℕ}
    (hfuel : chunks.length ≤ fuel) : readChunks fuel (writeChunks chunks) = some chunks := by
  induction chunks generalizing fuel with
  | nil => cases fuel <;> rfl
  | cons chunk chunks ih =>
    obtain ⟨hchunk,hchunks⟩ := List.forall_mem_cons.mp h
    cases fuel with
    | zero => exact absurd hfuel (Nat.not_succ_le_zero _)
    | succ fuel =>
      rw [writeChunks,List.flatMap_cons,readChunks_cons hchunk,← writeChunks,
        ih hchunks (Nat.le_of_succ_le_succ hfuel),Option.map_some]

/-- Odd data at the end of the bytes, without its pad byte, is no chunk. -/
lemma readChunk_unpadded {id data : Bytes} (hid : id.length = 4) (hsize : data.length < 256 ^ 4)
    (hodd : data.length % 2 = 1) : readChunk (id ++ (writeLe 4 data.length ++ data)) = none := by
  have hfield : field (id ++ (writeLe 4 data.length ++ data)) 4 4 = data.length := field_written id rfl hid hsize
  unfold readChunk
  dsimp only
  rw [hfield,if_pos]
  simp only [List.length_append,length_writeLe,hid]
  omega

/-- However many chunks stand before it, odd data without its pad byte ends no document. -/
lemma readChunks_unpadded {chunks : List Chunk} (h : ∀ chunk ∈ chunks, chunk.Valid) {id data : Bytes}
    (hid : id.length = 4) (hsize : data.length < 256 ^ 4) (hodd : data.length % 2 = 1) (fuel : ℕ) :
    readChunks fuel (writeChunks chunks ++ (id ++ (writeLe 4 data.length ++ data))) = none := by
  induction chunks generalizing fuel with
  | nil =>
    have hnone := readChunk_unpadded hid hsize hodd
    obtain ⟨byte,bytes,hid'⟩ := List.exists_cons_of_ne_nil (List.ne_nil_of_length_pos (by omega : 0 < id.length))
    rw [hid',List.cons_append] at hnone
    rw [writeChunks,List.flatMap_nil,List.nil_append,hid',List.cons_append]
    cases fuel with
    | zero => rfl
    | succ fuel => rw [readChunks,hnone,Option.bind_none]
  | cons chunk chunks ih =>
    obtain ⟨hchunk,hchunks⟩ := List.forall_mem_cons.mp h
    rw [writeChunks,List.flatMap_cons,List.append_assoc,← writeChunks]
    cases fuel with
    | zero =>
      obtain ⟨byte,bytes,hbytes⟩ :=
        write_append_cons hchunk (writeChunks chunks ++ (id ++ (writeLe 4 data.length ++ data)))
      rw [hbytes]
      rfl
    | succ fuel => rw [readChunks_cons hchunk,ih hchunks,Option.map_none]

end Chunks

section Document

def riffId : Bytes := [0x52,0x49,0x46,0x46]

/-- A document: the size after its first eight bytes, its form and its chunks. -/
def write (form : Bytes) (chunks : List Chunk) : Bytes :=
  riffId ++ (writeLe 4 (4 + (writeChunks chunks).length) ++ (form ++ writeChunks chunks))

def read (bytes : Bytes) : Option (Bytes × List Chunk) :=
  if bytes.take 4 ≠ riffId ∨ field bytes 4 4 ≠ bytes.length - 8 then none
  else (readChunks bytes.length (bytes.drop 12)).map fun chunks => ((bytes.drop 8).take 4,chunks)

lemma length_write_le (chunks : List Chunk) (h : ∀ chunk ∈ chunks, chunk.Valid) :
    chunks.length ≤ (writeChunks chunks).length := by
  induction chunks with
  | nil => exact Nat.le_refl 0
  | cons chunk chunks ih =>
    obtain ⟨hchunk,hchunks⟩ := List.forall_mem_cons.mp h
    have hlength := length_write hchunk
    have hrest := ih hchunks
    rw [writeChunks,List.flatMap_cons,List.length_append,List.length_cons]
    change chunks.length + 1 ≤ chunk.write.length + (writeChunks chunks).length
    omega

/-- A document that was written is read. -/
theorem read_write {form : Bytes} {chunks : List Chunk} (hform : form.length = 4)
    (h : ∀ chunk ∈ chunks, chunk.Valid) (hsize : 4 + (writeChunks chunks).length < 256 ^ 4) :
    read (write form chunks) = some (form,chunks) := by
  have hfield : field (write form chunks) 4 4 = 4 + (writeChunks chunks).length := field_written riffId rfl rfl hsize
  have hlength : (write form chunks).length = 12 + (writeChunks chunks).length := by
    simp only [write,riffId,List.length_append,length_writeLe,List.length_cons,List.length_nil,hform]
    omega
  have hfront : (riffId ++ writeLe 4 (4 + (writeChunks chunks).length)).length = 8 := by simp [riffId]
  have hafter : (write form chunks).drop 8 = form ++ writeChunks chunks := by
    rw [write,← List.append_assoc,List.drop_left' hfront]
  have hchunks : (write form chunks).drop 12 = writeChunks chunks := by
    rw [show 12 = 8 + 4 from rfl,← List.drop_drop,hafter,List.drop_left' hform]
  have hfuel := length_write_le chunks h
  have hid : (write form chunks).take 4 = riffId := rfl
  unfold read
  rw [hid,hfield,hlength,if_neg (not_or.mpr ⟨fun hne => hne rfl,by omega⟩),hchunks,hafter,List.take_left' hform,
    readChunks_write h (by omega)]
  rfl

end Document

section Wave

def waveId : Bytes := [0x57,0x41,0x56,0x45]
def formatId : Bytes := [0x66,0x6d,0x74,0x20]
def dataId : Bytes := [0x64,0x61,0x74,0x61]

structure WaveFormat where
  formatTag : ℕ
  channels : ℕ
  sampleRate : ℕ
  byteRate : ℕ
  blockAlign : ℕ
  bitsPerSample : ℕ
  deriving DecidableEq, Repr

def WaveFormat.write (format : WaveFormat) : Bytes :=
  writeLe 2 format.formatTag ++ (writeLe 2 format.channels ++ (writeLe 4 format.sampleRate ++
    (writeLe 4 format.byteRate ++ (writeLe 2 format.blockAlign ++ writeLe 2 format.bitsPerSample))))

/-- The numbers of a format fit its document. -/
structure WaveFormat.Valid (format : WaveFormat) : Prop where
  formatTag : format.formatTag < 256 ^ 2
  channels : format.channels < 256 ^ 2
  sampleRate : format.sampleRate < 256 ^ 4
  byteRate : format.byteRate < 256 ^ 4
  blockAlign : format.blockAlign < 256 ^ 2
  bitsPerSample : format.bitsPerSample < 256 ^ 2

def readFormat (data : Bytes) : Option WaveFormat :=
  if data.length < 16 then none
  else some ⟨field data 0 2,field data 2 2,field data 4 4,field data 8 4,field data 12 2,field data 14 2⟩

def chunkNamed (id : Bytes) (chunks : List Chunk) : Option Bytes :=
  (chunks.find? fun chunk => chunk.id = id).map Chunk.data

/-- The format and the samples of a WAVE document. -/
def readWave (bytes : Bytes) : Option (WaveFormat × Bytes) := do
  let (form,chunks) ← read bytes
  let format ← (chunkNamed formatId chunks).bind readFormat
  let samples ← chunkNamed dataId chunks
  if form = waveId then some (format,samples) else none

def waveChunks (format : WaveFormat) (samples : Bytes) : List Chunk := [⟨formatId,format.write⟩,⟨dataId,samples⟩]

lemma length_format (format : WaveFormat) : format.write.length = 16 := by simp [WaveFormat.write]

lemma readFormat_write {format : WaveFormat} (h : format.Valid) : readFormat format.write = some format := by
  have htag : field format.write 0 2 = format.formatTag := field_written [] rfl rfl h.formatTag
  have hchannels : field format.write 2 2 = format.channels :=
    field_written (writeLe 2 format.formatTag) rfl rfl h.channels
  have hrate : field format.write 4 4 = format.sampleRate :=
    field_written (writeLe 2 format.formatTag ++ writeLe 2 format.channels) rfl rfl h.sampleRate
  have hbytes : field format.write 8 4 = format.byteRate :=
    field_written (writeLe 2 format.formatTag ++ writeLe 2 format.channels ++ writeLe 4 format.sampleRate) rfl rfl
      h.byteRate
  have halign : field format.write 12 2 = format.blockAlign :=
    field_written (writeLe 2 format.formatTag ++ writeLe 2 format.channels ++ writeLe 4 format.sampleRate ++
      writeLe 4 format.byteRate) rfl rfl h.blockAlign
  have hbits : field format.write 14 2 = format.bitsPerSample :=
    field_written (writeLe 2 format.formatTag ++ writeLe 2 format.channels ++
      writeLe 4 format.sampleRate ++ writeLe 4 format.byteRate ++ writeLe 2 format.blockAlign) rfl rfl h.bitsPerSample
  unfold readFormat
  rw [length_format,if_neg (lt_irrefl _),htag,hchannels,hrate,hbytes,halign,hbits]

lemma waveChunks_valid (format : WaveFormat) {samples : Bytes} (h : samples.length < 256 ^ 4) :
    ∀ chunk ∈ waveChunks format samples, chunk.Valid := by
  intro chunk hchunk
  rcases List.mem_cons.mp hchunk with rfl | hchunk
  · exact ⟨rfl,by rw [length_format]; decide⟩
  · obtain rfl := List.mem_singleton.mp hchunk
    exact ⟨rfl,h⟩

lemma length_waveChunks (format : WaveFormat) {samples : Bytes} (h : samples.length < 256 ^ 4) :
    (writeChunks (waveChunks format samples)).length = 32 + samples.length + samples.length % 2 := by
  have hformat := length_write (waveChunks_valid format h _ List.mem_cons_self)
  have hsamples := length_write (waveChunks_valid format h ⟨dataId,samples⟩ (by simp [waveChunks]))
  simp only [writeChunks,waveChunks,List.flatMap_cons,List.flatMap_nil,List.append_nil,List.length_append,hformat,
    hsamples,length_format]
  omega

/-- Odd samples without their pad byte are not read, whatever the size of the document says. -/
theorem readWave_unpadded {start samples : Bytes} (format : WaveFormat) (hstart : start.length = 12)
    (hsize : samples.length < 256 ^ 4) (hodd : samples.length % 2 = 1) :
    readWave (start ++ (Chunk.write ⟨formatId,format.write⟩ ++ (dataId ++ (writeLe 4 samples.length ++ samples)))) =
      none := by
  have hformat : ∀ chunk ∈ [Chunk.mk formatId format.write], chunk.Valid := by
    intro chunk hchunk
    obtain rfl := List.mem_singleton.mp hchunk
    exact ⟨rfl,by rw [length_format]; decide⟩
  have hnone := readChunks_unpadded hformat (show dataId.length = 4 from rfl) hsize hodd
  rw [writeChunks,List.flatMap_cons,List.flatMap_nil,List.append_nil] at hnone
  have hread : read (start ++ (Chunk.write ⟨formatId,format.write⟩ ++
      (dataId ++ (writeLe 4 samples.length ++ samples)))) = none := by
    unfold read
    split_ifs
    · rfl
    · rw [List.drop_left' hstart,hnone]
      rfl
  unfold readWave
  rw [hread]
  rfl

/-- A WAVE document that was written gives back its format and its samples. -/
theorem readWave_write {format : WaveFormat} {samples : Bytes} (h : format.Valid)
    (hsize : 4 + (writeChunks (waveChunks format samples)).length < 256 ^ 4) :
    readWave (write waveId (waveChunks format samples)) = some (format,samples) := by
  have hsamples : samples.length < 256 ^ 4 := by
    simp only [waveChunks,writeChunks,List.flatMap_cons,List.length_append,Chunk.write] at hsize
    omega
  have hread := read_write (show waveId.length = 4 from rfl) (waveChunks_valid format hsamples) hsize
  have hformat : chunkNamed formatId (waveChunks format samples) = some format.write := rfl
  have hdata : chunkNamed dataId (waveChunks format samples) = some samples := rfl
  unfold readWave
  rw [hread]
  simp only [Option.bind_eq_bind,Option.bind_some,hformat,hdata,readFormat_write h,if_true]

end Wave
end AytherRuntime.Riff
