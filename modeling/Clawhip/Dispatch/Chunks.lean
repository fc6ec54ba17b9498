import Clawhip.Dispatch.Routine
import Clawhip.Lib.Packing

/-!
# Splitting a batch into messages

`split_discord_routine_chunks` of `src/dispatch.rs` puts the rendered items of a batch into messages that Discord
takes, at the borders of the items. The loop builds a packing of the items (`Packs`) with its last run still open.
-/

namespace Clawhip.Dispatch

open List

def DISCORD_MAX_CONTENT_SCALARS : ℕ := 2000

def capToDiscordLimit (content : String) : String :=
  if content.length ≤ DISCORD_MAX_CONTENT_SCALARS then content
  else
    let ellipsis := "…"
    let take := DISCORD_MAX_CONTENT_SCALARS - ellipsis.length
    String.ofList (content.toList.take take) ++ ellipsis

/-- An item of a batch as it is rendered: its place in the batch, its text and the kind of its event. -/
structure Rendered where
  index : ℕ
  content : String
  kind : String

structure DiscordRoutineChunk where
  content : String
  event_count : ℕ
  chunk_index : ℕ
  total_chunks : ℕ
  event_kinds : List String

def MAX_SCALARS : ℕ := 2000

def SEPARATOR : String := "\n"

/-- What the splitting has so far: the chunks with their items, texts and kinds, and the current chunk. -/
structure Splitting where
  chunks : List (List Rendered × String × List String)
  current_items : List Rendered
  current_len : ℕ
  current_kinds : List String

namespace Splitting

/-- The texts of the current chunk, joined. -/
def joined (s : Splitting) : String := SEPARATOR.intercalate (s.current_items.map Rendered.content)

/-- The current chunk is finished. -/
def flush (s : Splitting) : Splitting :=
  { s with
    chunks := s.chunks ++ [(s.current_items, s.joined, s.current_kinds)]
    current_items := []
    current_kinds := [] }

/-- A new chunk starts with an item; one that is too large is capped and is a chunk of its own. -/
def start (s : Splitting) (item : Rendered) : Splitting :=
  if item.content.length ≤ MAX_SCALARS then
    { s with
      current_items := s.current_items ++ [item]
      current_len := item.content.length
      current_kinds := s.current_kinds ++ [item.kind] }
  else
    { s with
      chunks := s.chunks ++ [([item], capToDiscordLimit item.content, [item.kind])]
      current_len := 0 }

/-- One item of the forward pass. -/
def push (s : Splitting) (item : Rendered) : Splitting :=
  let item_len := item.content.length
  let added_len := if s.current_items.isEmpty then item_len else SEPARATOR.length + item_len
  if s.current_len + added_len ≤ MAX_SCALARS then
    { s with
      current_items := s.current_items ++ [item]
      current_len := s.current_len + added_len
      current_kinds := s.current_kinds ++ [item.kind] }
  else if !s.current_items.isEmpty then s.flush.start item
  else s.start item

end Splitting

def splitDiscordRoutineChunks (rendered : List Rendered) : List DiscordRoutineChunk :=
  let s := rendered.foldl Splitting.push ⟨[], [], 0, []⟩
  let chunks := if !s.current_items.isEmpty then s.flush.chunks else s.chunks
  chunks.zipIdx.map fun ((_, content, kinds), idx) =>
    { content
      event_count := kinds.length
      chunk_index := idx
      total_chunks := chunks.length
      event_kinds := kinds }

/-! ## The pass -/

/-- The length of an item in scalar values. -/
def Rendered.size (item : Rendered) : ℕ := item.content.length

/-- The text of a packet. -/
def packetContent : Packet Rendered → String
  | .run first rest => SEPARATOR.intercalate ((first :: rest).map Rendered.content)
  | .lone item => capToDiscordLimit item.content

def chunkOf (packet : Packet Rendered) : List Rendered × String × List String :=
  (packet.items, packetContent packet, packet.items.map Rendered.kind)

/-- A packing of rendered items into messages. -/
def PacksRendered (packets : List (Packet Rendered)) (items : List Rendered) : Prop :=
  Packs Rendered.size SEPARATOR.length MAX_SCALARS packets items

/-- The pass has packed the items; the current chunk is the last run, still open, and where there is none the
last packet is no run. -/
structure Splitting.Holds (s : Splitting) (packets : List (Packet Rendered)) (items : List Rendered) : Prop where
  chunks : s.chunks = packets.map chunkOf
  kinds : s.current_kinds = s.current_items.map Rendered.kind
  idle : s.current_items = [] → s.current_len = 0 ∧ PacksRendered packets items ∧
    ∀ last ∈ packets.getLast?, ∃ item, last = .lone item
  busy : ∀ first rest, s.current_items = first :: rest →
    s.current_len = Packet.width Rendered.size SEPARATOR.length first rest ∧
      PacksRendered (packets ++ [.run first rest]) items


namespace Splitting.Holds

variable {s : Splitting} {packets : List (Packet Rendered)} {items : List Rendered} {item : Rendered}

/-- The current chunk is finished with its run. -/
theorem flush {first : Rendered} {rest : List Rendered} (h : s.Holds packets items)
    (hcurrent : s.current_items = first :: rest) :
    s.flush.chunks = (packets ++ [Packet.run first rest]).map chunkOf := by
  have hchunk : (s.current_items, s.joined, s.current_kinds) = chunkOf (.run first rest) := by
    unfold joined
    rw [h.kinds, hcurrent]
    rfl
  rw [map_append, map_singleton, ← hchunk, ← h.chunks]
  rfl

/-- A new chunk behind packets that are closed. -/
theorem start (hchunks : s.chunks = packets.map chunkOf) (hitems : s.current_items = [])
    (hkinds : s.current_kinds = []) (hpacks : PacksRendered packets items)
    (hfull : ∀ last ∈ packets.getLast?, last.Full Rendered.size SEPARATOR.length MAX_SCALARS (.run item [])) :
    ∃ packets', (s.start item).Holds packets' (items ++ [item]) := by
  unfold Splitting.start
  split_ifs with hsize
  · refine ⟨packets, ⟨hchunks, by simp [hitems, hkinds], fun hnil => ?_, fun first rest hcons => ?_⟩⟩
    · simp [hitems] at hnil
    · simp only [hitems, nil_append, cons.injEq] at hcons
      obtain ⟨rfl, rfl⟩ := hcons
      have hsound : (Packet.run item []).Sound Rendered.size SEPARATOR.length MAX_SCALARS := hsize
      exact ⟨rfl, hpacks.append hsound hfull⟩
  · refine ⟨packets ++ [.lone item], ⟨?_, by simp [hitems, hkinds], fun _ => ?_, fun first rest hcons => ?_⟩⟩
    · rw [map_append, hchunks]
      rfl
    · refine ⟨rfl, hpacks.lone (not_le.mp hsize), fun last hlast => ⟨item, ?_⟩⟩
      simpa using hlast.symm
    · simp [hitems] at hcons

theorem push (h : s.Holds packets items) : ∃ packets', (s.push item).Holds packets' (items ++ [item]) := by
  unfold Splitting.push
  cases hcurrent : s.current_items with
  | nil =>
    obtain ⟨hlen, hpacks, hlast⟩ := h.idle hcurrent
    -- nothing is current, so the item is the first of a run or a chunk of its own
    have hstart : ∃ packets', (s.start item).Holds packets' (items ++ [item]) := by
      refine start h.chunks hcurrent (by rw [h.kinds, hcurrent]; rfl) hpacks fun last hmem => ?_
      obtain ⟨alone, rfl⟩ := hlast last hmem
      exact trivial
    simp only [isEmpty_nil, if_true, Bool.not_true, Bool.false_eq_true, if_false, hlen, Nat.zero_add, nil_append]
    split_ifs with hsize
    · unfold Splitting.start at hstart
      rw [if_pos hsize, hcurrent] at hstart
      exact hstart
    · exact hstart
  | cons first rest =>
    obtain ⟨hlen, hpacks⟩ := h.busy first rest hcurrent
    simp only [isEmpty_cons, Bool.false_eq_true, if_false, Bool.not_false, if_true, hlen]
    split_ifs with hsize
    · refine ⟨packets, ⟨h.chunks, by simp [h.kinds, hcurrent], fun hnil => ?_, fun first' rest' hcons => ?_⟩⟩
      · simp at hnil
      · obtain ⟨rfl, rfl⟩ := hcons
        exact ⟨(Packet.width_append item).symm, Packs.extend hpacks hsize⟩
    · refine start (h.flush hcurrent) rfl rfl hpacks fun last hmem => ?_
      have hrun : last = .run first rest := by simpa using hmem.symm
      rw [hrun]
      exact not_le.mp hsize

/-- All items are packed. -/
theorem pass (rendered : List Rendered) : ∀ {s : Splitting} {packets : List (Packet Rendered)}
    {items : List Rendered}, s.Holds packets items →
      ∃ packets', (rendered.foldl Splitting.push s).Holds packets' (items ++ rendered) := by
  induction rendered with
  | nil => exact fun {s packets items} h => ⟨packets, by rwa [append_nil]⟩
  | cons item rendered ih =>
    intro s packets items h
    obtain ⟨packets', hpush⟩ : ∃ packets', (s.push item).Holds packets' (items ++ [item]) := h.push
    obtain ⟨packets'', hpass⟩ := ih hpush
    exact ⟨packets'', by simpa using hpass⟩

end Splitting.Holds

/-! ## The messages -/

/-- The messages of a packing, numbered. -/
def messagesOf (packets : List (Packet Rendered)) : List DiscordRoutineChunk :=
  packets.zipIdx.map fun (packet, index) =>
    { content := packetContent packet
      event_count := packet.items.length
      chunk_index := index
      total_chunks := packets.length
      event_kinds := packet.items.map Rendered.kind }

/-- The messages are those of a packing of all items. -/
theorem exists_packing (rendered : List Rendered) : ∃ packets, PacksRendered packets rendered ∧
    splitDiscordRoutineChunks rendered = messagesOf packets := by
  have hempty : Splitting.Holds ⟨[], [], 0, []⟩ [] [] := by
    refine ⟨rfl, rfl, fun _ => ⟨rfl, packs_nil, fun last hlast => ?_⟩, fun first rest h => ?_⟩
    · cases hlast
    · cases h
  obtain ⟨packets, h⟩ := Splitting.Holds.pass rendered hempty
  -- the last run is flushed, if there is one
  have hflushed : ∃ closed, PacksRendered closed rendered ∧ (let s := rendered.foldl Splitting.push ⟨[], [], 0, []⟩
        if !s.current_items.isEmpty then s.flush.chunks else s.chunks) = closed.map chunkOf := by
    dsimp only
    generalize rendered.foldl Splitting.push ⟨[], [], 0, []⟩ = s at h
    cases hcurrent : s.current_items with
    | nil => exact ⟨packets, (h.idle hcurrent).2.1, h.chunks⟩
    | cons first rest =>
      refine ⟨packets ++ [.run first rest], (h.busy first rest hcurrent).2, ?_⟩
      rw [isEmpty_cons, Bool.not_false, if_pos rfl]
      exact h.flush hcurrent
  obtain ⟨closed, hpacks, hchunks⟩ := hflushed
  refine ⟨closed, hpacks, ?_⟩
  unfold splitDiscordRoutineChunks messagesOf
  dsimp only at hchunks ⊢
  rw [hchunks, length_map, zipIdx_map, List.map_map]
  refine map_congr_left fun placed _ => ?_
  simp [chunkOf]

/-- The length of a text of joined parts. -/
theorem length_intercalate (separator : String) (first : String) (rest : List String) :
    (separator.intercalate (first :: rest)).length =
      first.length + (rest.map fun part => separator.length + part.length).sum := by
  induction rest generalizing first with
  | nil => simp
  | cons next rest ih =>
    rw [String.intercalate_cons_cons, String.length_append, String.length_append, ih, map_cons, sum_cons]
    omega

/-- A text that is capped is as long as it may be. -/
theorem length_capToDiscordLimit (content : String) :
    (capToDiscordLimit content).length ≤ DISCORD_MAX_CONTENT_SCALARS := by
  unfold capToDiscordLimit
  split_ifs with h
  · exact h
  · have hellipsis : "…".length = 1 := rfl
    rw [String.length_append, String.length_ofList, length_take, hellipsis]
    have hmin := min_le_left (DISCORD_MAX_CONTENT_SCALARS - 1) content.toList.length
    unfold DISCORD_MAX_CONTENT_SCALARS at hmin ⊢
    omega

/-! ## The messages of packets -/

theorem length_messagesOf (packets : List (Packet Rendered)) :
    (messagesOf packets).length = packets.length := by simp [messagesOf]

variable {packets : List (Packet Rendered)} {rendered : List Rendered}

section

variable (hpacks : PacksRendered packets rendered)
include hpacks

/-- No message of sound packets is longer than Discord takes. -/
theorem length_content_le {chunk : DiscordRoutineChunk}
    (hchunk : chunk ∈ messagesOf packets) : chunk.content.length ≤ DISCORD_MAX_CONTENT_SCALARS := by
  obtain ⟨placed, hplaced, rfl⟩ := mem_map.mp hchunk
  have hmem : placed.1 ∈ packets := fst_mem_of_mem_zipIdx hplaced
  have hsound := hpacks.sound placed.1 hmem
  cases hpacket : placed.1 with
  | run first rest =>
    rw [hpacket] at hsound
    simp only [hpacket, packetContent, map_cons]
    rw [length_intercalate, map_map]
    exact hsound
  | lone item =>
    simp only [hpacket, packetContent]
    exact length_capToDiscordLimit item.content

/-- The kinds of the messages are those of the items, in order. -/
theorem event_kinds_messagesOf :
    (messagesOf packets).flatMap DiscordRoutineChunk.event_kinds = rendered.map Rendered.kind := by
  rw [← hpacks.items, map_flatMap]
  unfold messagesOf
  rw [flatMap_map]
  conv_rhs => rw [← zipIdx_map_fst 0 packets, flatMap_map]

/-- The counts of the messages add up. -/
theorem sum_event_count_messagesOf :
    ((messagesOf packets).map DiscordRoutineChunk.event_count).sum = rendered.length := by
  rw [← hpacks.items, length_flatMap]
  unfold messagesOf
  rw [map_map]
  conv_rhs => rw [← zipIdx_map_fst 0 packets, map_map]
  rfl

end

/-- The messages are numbered in order. -/
theorem chunk_index_messagesOf (packets : List (Packet Rendered)) :
    (messagesOf packets).map DiscordRoutineChunk.chunk_index = range (messagesOf packets).length := by
  rw [length_messagesOf]
  unfold messagesOf
  rw [map_map]
  conv_rhs => rw [range_eq_range', ← zipIdx_map_snd 0 packets]
  rfl

/-- The messages of a batch: all items of the batch are packed into them in order, a message is the items of a run
joined by line breaks or a single item that is too large, capped, and no message is longer than Discord takes. -/
theorem splitDiscordRoutineChunks_packs (rendered : List Rendered) :
    (∃ packets, PacksRendered packets rendered ∧ splitDiscordRoutineChunks rendered = messagesOf packets) ∧
      (∀ chunk ∈ splitDiscordRoutineChunks rendered, chunk.content.length ≤ 2000) ∧
      (splitDiscordRoutineChunks rendered).flatMap DiscordRoutineChunk.event_kinds =
        rendered.map Rendered.kind ∧
      ((splitDiscordRoutineChunks rendered).map DiscordRoutineChunk.event_count).sum = rendered.length ∧
      (splitDiscordRoutineChunks rendered).map DiscordRoutineChunk.chunk_index =
        List.range (splitDiscordRoutineChunks rendered).length ∧ ∀ chunk ∈ splitDiscordRoutineChunks rendered,
        chunk.total_chunks = (splitDiscordRoutineChunks rendered).length := by
  obtain ⟨packets, hpacks, hmessages⟩ := exists_packing rendered
  refine ⟨⟨packets, hpacks, hmessages⟩, ?_⟩
  rw [hmessages]
  refine ⟨fun chunk hchunk => length_content_le hpacks hchunk, event_kinds_messagesOf hpacks,
    sum_event_count_messagesOf hpacks, chunk_index_messagesOf packets, fun chunk hchunk => ?_⟩
  obtain ⟨placed, -, rfl⟩ := List.mem_map.mp hchunk
  exact (length_messagesOf packets).symm

end Clawhip.Dispatch
