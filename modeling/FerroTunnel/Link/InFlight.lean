import FerroTunnel.Transport.BatchedSender
import FerroTunnel.Wire.Chunking

/-!
# Frames in flight

What a list of frames on its way holds for one stream: the data it carries, and
whether the frame that opens the stream comes before all of its data.  Flushing
a batch keeps both, because the frames of one stream share their priority and
the sort is stable; decoding takes the first frame.
-/

namespace FerroTunnel.Link

open FerroTunnel.Transport
open FerroTunnel.Wire

/-- The frame opens the stream. -/
def opens (streamId : UInt32) : Frame → Bool
  | .openStream openStream => openStream.streamId = streamId
  | _ => false

/-- The bytes a frame carries for a stream. -/
def dataOf (streamId : UInt32) : Frame → Bytes
  | .data id payload _ => if id = streamId then payload else []
  | _ => []

/-- The frame opens the stream or carries its data. -/
def concerns (streamId : UInt32) : Frame → Bool
  | .openStream openStream => openStream.streamId = streamId
  | .data id _ _ => id = streamId
  | _ => false

/-- The bytes a list of frames carries for a stream. -/
def dataIn (streamId : UInt32) (frames : List Frame) : Bytes :=
  frames.flatMap (dataOf streamId)

/-- The stream is opened at most once, and before all of its data. -/
def OpensFirst (streamId : UInt32) (frames : List Frame) : Prop :=
  frames.Pairwise fun earlier later =>
    opens streamId later = true → opens streamId earlier = false ∧ dataOf streamId earlier = []

/-! ## Frames that do not concern the stream -/

variable {streamId : UInt32} {frame : Frame} {batch : List PrioritizedFrame}
  {priority : StreamPriority}

theorem opens_of_not_concerns (other : concerns streamId frame = false) :
    opens streamId frame = false := by
  cases frame <;> first | rfl | exact other

theorem dataOf_of_not_concerns (other : concerns streamId frame = false) :
    dataOf streamId frame = [] := by
  cases frame with
  | data id payload endOfStream =>
      have different : id ≠ streamId := by simpa [concerns] using other
      simp [dataOf, different]
  | _ => rfl

theorem concerns_of_opens (opened : opens streamId frame = true) :
    concerns streamId frame = true := by
  cases hides : concerns streamId frame with
  | true => rfl
  | false =>
      rw [opens_of_not_concerns hides] at opened
      cases opened

@[simp]
theorem dataIn_nil (streamId : UInt32) : dataIn streamId [] = [] :=
  rfl

@[simp]
theorem dataIn_cons (streamId : UInt32) (frame : Frame) (frames : List Frame) :
    dataIn streamId (frame :: frames) = dataOf streamId frame ++ dataIn streamId frames :=
  rfl

@[simp]
theorem dataIn_append (streamId : UInt32) (first second : List Frame) :
    dataIn streamId (first ++ second) = dataIn streamId first ++ dataIn streamId second :=
  List.flatMap_append

/-- Data of a stream is in the frames that concern it. -/
theorem dataIn_filter_concerns (streamId : UInt32) (frames : List Frame) :
    dataIn streamId (frames.filter (concerns streamId)) = dataIn streamId frames := by
  induction frames with
  | nil => rfl
  | cons frame rest ih =>
      cases hides : concerns streamId frame with
      | true => simp [hides, ih]
      | false => simp [hides, ih, dataOf_of_not_concerns hides]

/-- The order of opening and data is that of the frames concerned. -/
theorem opensFirst_filter_concerns (streamId : UInt32) (frames : List Frame) :
    OpensFirst streamId (frames.filter (concerns streamId)) ↔ OpensFirst streamId frames := by
  rw [OpensFirst, List.pairwise_filter]
  constructor
  · intro ordered
    apply ordered.imp
    intro earlier later related opened
    cases hides : concerns streamId earlier with
    | true => exact related hides (concerns_of_opens opened) opened
    | false => exact ⟨opens_of_not_concerns hides, dataOf_of_not_concerns hides⟩
  · intro ordered
    apply ordered.imp
    intro earlier later related _ _
    exact related

/-- A frame that opens nothing may be added last. -/
theorem OpensFirst.concat {frames : List Frame} (ordered : OpensFirst streamId frames)
    (allowed : opens streamId frame = true →
      ∀ earlier ∈ frames, opens streamId earlier = false ∧ dataOf streamId earlier = []) :
    OpensFirst streamId (frames ++ [frame]) := by
  rw [OpensFirst, List.pairwise_append]
  refine ⟨ordered, List.pairwise_singleton _ _, ?_⟩
  intro earlier member later last opened
  rw [List.mem_singleton.mp last] at opened
  exact allowed opened earlier member

/-! ## Flushing a batch -/

variable {codec : TunnelCodec} {bincode : Bincode}

/-- The frames of a batch in the order in which they are written. -/
def flushed (codec : TunnelCodec) (bincode : Bincode) (batch : List PrioritizedFrame) :
    List Frame :=
  ((sortByDrainOrder batch).map Prod.snd).filter (isEncodable codec bincode)

theorem isEncodable_of_mem_flushed (member : frame ∈ flushed codec bincode batch) :
    isEncodable codec bincode frame = true :=
  (List.mem_filter.mp member).2

variable (samePriority : ∀ item ∈ batch, concerns streamId item.2 = true → item.1 = priority)

include samePriority

/-- Sorting by priority keeps the order of a stream's frames, which share theirs. -/
theorem flushed_filter_concerns :
    (flushed codec bincode batch).filter (concerns streamId) =
      ((batch.map Prod.snd).filter (concerns streamId)).filter (isEncodable codec bincode) := by
  have sorted := filter_sortByDrainOrder (fun item => concerns streamId item.2) batch
    fun first firstMem second secondMem firstConcerned secondConcerned =>
      (samePriority first firstMem firstConcerned).trans
        (samePriority second secondMem secondConcerned).symm
  have concernsOf (items : List PrioritizedFrame) :
      (items.map Prod.snd).filter (concerns streamId) =
        (items.filter fun item => concerns streamId item.2).map Prod.snd :=
    List.filter_map
  rw [flushed, List.filter_comm, concernsOf, concernsOf]
  exact congrArg (fun items => (items.map Prod.snd).filter (isEncodable codec bincode)) sorted

/-- A flush loses no data of a stream. -/
theorem dataIn_flushed
    (encodable : ∀ item ∈ batch, item.2.isData = true → isEncodable codec bincode item.2 = true) :
    dataIn streamId (flushed codec bincode batch) = dataIn streamId (batch.map Prod.snd) := by
  have dropsNoData (frames : List Frame)
      (encodable : ∀ frame ∈ frames, frame.isData = true →
        isEncodable codec bincode frame = true) :
      dataIn streamId (frames.filter (isEncodable codec bincode)) = dataIn streamId frames := by
    induction frames with
    | nil => rfl
    | cons frame rest ih =>
        have restEq := ih fun other member => encodable other (List.mem_cons_of_mem _ member)
        cases kept : isEncodable codec bincode frame with
        | true => simp [kept, restEq]
        | false =>
            have noData : dataOf streamId frame = [] := by
              cases frame with
              | data id payload endOfStream =>
                  rw [encodable _ (List.mem_cons_self ..) rfl] at kept
                  cases kept
              | _ => rfl
            simp [kept, restEq, noData]
  rw [← dataIn_filter_concerns, flushed_filter_concerns samePriority, dropsNoData,
    dataIn_filter_concerns]
  intro frame member isData
  obtain ⟨item, itemMem, rfl⟩ := List.mem_map.mp (List.mem_filter.mp member).1
  exact encodable item itemMem isData

/-- A flush keeps the opening of a stream before its data. -/
theorem OpensFirst.flushed {before after : List Frame}
    (ordered : OpensFirst streamId (before ++ (batch.map Prod.snd ++ after))) :
    OpensFirst streamId (before ++ (Link.flushed codec bincode batch ++ after)) := by
  rw [← opensFirst_filter_concerns] at ordered ⊢
  rw [List.filter_append, List.filter_append] at ordered ⊢
  rw [flushed_filter_concerns samePriority]
  refine List.Pairwise.sublist ?_ ordered
  apply List.Sublist.append_left
  apply List.Sublist.append_right
  exact List.filter_sublist

/-! ## Decoding from the wire -/

omit samePriority

/-- What is decoded from the front of encoded frames is the first of them. -/
theorem decode_wireImages {frames : List Frame} {received ahead rest : Bytes}
    (inverts : bincode.Inverts)
    (encodable : ∀ frame ∈ frames, isEncodable codec bincode frame = true)
    (bytes : received ++ ahead = frames.flatMap (wireImage bincode))
    (decoded : codec.decode bincode received = (.ok (some frame), rest)) :
    ∃ later, frames = frame :: later ∧ rest ++ ahead = later.flatMap (wireImage bincode) := by
  have whole := TunnelCodec.decode_append_of_verdict decoded (by simp) ahead
  rw [bytes] at whole
  cases frames with
  | nil =>
      rw [List.flatMap_nil, TunnelCodec.decode_nil] at whole
      cases whole
  | cons first later =>
      have firstEncodable := encodable first (List.mem_cons_self ..)
      simp only [isEncodable] at firstEncodable
      split at firstEncodable
      · rename_i record recordEq
        have image : wireImage bincode first = lengthPrefixed record := by
          simp [wireImage, recordEq]
        rw [List.flatMap_cons, image, TunnelCodec.decode_lengthPrefixed
          (Frame.record_ne_nil recordEq) (of_decide_eq_true firstEncodable)] at whole
        rcases TunnelCodec.decodeRecord_record codec inverts recordEq with
          parsed | ⟨e, failed⟩
        · rw [parsed] at whole
          obtain ⟨sameFrame, sameRest⟩ := Prod.mk.inj whole
          cases sameFrame
          exact ⟨later, rfl, sameRest.symm⟩
        · rw [failed] at whole
          cases whole
      · cases firstEncodable

end FerroTunnel.Link
