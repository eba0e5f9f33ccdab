import RemoteConsole.Connection.Journal
import RemoteConsole.Proofs.Packet.Layout
import RemoteConsole.Proofs.Request.Lookup
import Mathlib.Algebra.Order.BigOperators.Group.List
import Mathlib.Algebra.Order.Group.Nat

/-!
# A response in several packets

A server that cuts the bytes of a response into packets may cut between any two bytes, but a packet
is read by itself: a body that the encoding cannot read counts as empty. Whether the response comes
out whole therefore depends on the cut alone (`reassembles_iff`): it does exactly if every cut falls
between two characters. Only in UTF-8 can a cut fall elsewhere.
-/

namespace RemoteConsole

/-- The bytes of a response as a server may cut them: no chunk is empty or looks like the end of the
response or like the trailer that is discarded, and each fits into a packet. -/
structure Cut (r : Routing) (text : String) (chunks : List Bytes) : Prop where
  /-- The chunks in a row are the bytes of the response. -/
  flatten : chunks.flatten = r.encoding.encode text
  /-- No chunk is empty. -/
  ne_nil : ∀ chunk ∈ chunks, chunk ≠ []
  /-- No chunk has the bytes that end a response. -/
  ne_marker : ∀ chunk ∈ chunks, chunk ≠ r.encoding.encode r.terminator.marker
  /-- No chunk has the bytes of the trailer, where a trailer is discarded. -/
  ne_trailer : r.terminator = .emptyEcho →
    ∀ chunk ∈ chunks, chunk ≠ r.encoding.encode Terminator.trailer
  /-- Every chunk fits into a packet. -/
  fits : ∀ chunk ∈ chunks, Packet.Fits chunk

/-- The chunks are those of a text that is cut between its characters. -/
def BetweenCharacters (e : Encoding) (text : String) (chunks : List Bytes) : Prop :=
  ∃ pieces : List String, String.join pieces = text ∧ pieces.map e.encode = chunks

namespace Link

/-- The arrival of a response with some body. -/
def response (id : Int32) (body : Bytes) : Op :=
  .frame (Packet.layout id .response body)

/-- The arrival of a response chunk by chunk, and of its end. -/
def responses (r : Routing) (id : Int32) (chunks : List Bytes) : List Op :=
  (chunks ++ [r.encoding.encode r.terminator.marker]).map (response id)

/-- The slot of the request that waits under an id. -/
def waiting (l : Link) (id : Int32) : Option Nat :=
  (l.conn.requests.find? id).map Request.slot

/-- What an operation leaves waiting under an id, and the slots it ends. -/
def progress (id : Int32) (s : Reply × Effects × Link) : Option Nat × List Settlement :=
  (s.2.2.waiting id, s.2.1.ended)

/-- A request for a response in several packets is registered, and the chunks of the response arrive
and then its end. The request waits after each chunk, nothing ends before the end, and then the
request is answered with the text. -/
def Reassembles (l : Link) (id : Int32) (chunks : List Bytes) (text : String) : Prop :=
  (((l.apply (.register id true)).2.2.run (responses l.conn.routing id chunks)).map (progress id)) =
    chunks.map (fun _ => (some l.conn.requests.issued, [])) ++
      [(none, [⟨l.conn.requests.issued, .answered text⟩])]

/-- A request waits for the rest of its response, and no authentication waits. -/
structure Awaits (l : Link) (r : Routing) (id : Int32) (slot : Nat) (body : String) : Prop where
  /-- No authentication waits for a verdict. -/
  auth : l.conn.auth = none
  /-- Packets are routed as given. -/
  routing : l.conn.routing = r
  /-- The request may take several packets, and `body` has arrived so far. -/
  request : l.conn.requests.find? id = some { slot, id, multi := true, body }

variable {l : Link} {r : Routing} {id : Int32} {slot : Nat} {body text : String} {chunk : Bytes}
  {chunks : List Bytes}

/-- A request waits with nothing arrived once it is registered. -/
theorem awaits_register (auth : l.conn.auth = none) (id : Int32) :
    Awaits (l.apply (.register id true)).2.2 l.conn.routing id l.conn.requests.issued "" :=
  ⟨auth, rfl, RequestTable.find?_register ..⟩

/-- A response goes to the requests while no authentication waits. -/
theorem apply_response (auth : l.conn.auth = none) (fits : Packet.Fits chunk) {delivery : Delivery}
    {requests : RequestTable} {ended : Option Settlement}
    (h : l.conn.requests.deliver id (l.conn.routing.encoding.received chunk) l.conn.routing.strict
      l.conn.routing.terminator = (delivery, requests, ended)) :
    (l.apply (response id chunk)).2.1.ended = ended.toList ∧
      (l.apply (response id chunk)).2.2.conn = { l.conn with requests } := by
  have hdispatch : l.conn.dispatch ⟨id, .response, l.conn.routing.encoding.received chunk⟩ =
      ({ ended := ended.toList }, { l.conn with requests }) := by
    rw [Connection.dispatch, if_neg (by simp), if_neg (by simp [auth]), h]
  have hframe : l.frameReceived (Packet.layout id .response chunk) =
      l.packetReceived ⟨id, .response, l.conn.routing.encoding.received chunk⟩ := by
    rw [frameReceived, Packet.decode_layout fits]
    rfl
  rw [response, apply, hframe, packetReceived, hdispatch]
  exact ⟨rfl, rfl⟩

namespace Awaits

/-- A body that does not end the response is added to it. -/
theorem more (h : Awaits l r id slot body) (fits : Packet.Fits chunk)
    (kept : r.terminator.discards (r.encoding.received chunk) = false)
    (goesOn : r.terminator.endsWith (r.encoding.received chunk) = false) :
    (l.apply (response id chunk)).2.1.ended = [] ∧
      Awaits (l.apply (response id chunk)).2.2 r id slot (body ++ r.encoding.received chunk) := by
  obtain ⟨auth, rfl, request⟩ := h
  have hdeliver := RequestTable.deliver_of_find? request rfl kept l.conn.routing.strict
  rw [if_neg (by simp [goesOn])] at hdeliver
  obtain ⟨hended, hconn⟩ := apply_response auth fits hdeliver
  refine ⟨hended, ⟨?_, ?_, ?_⟩⟩
  · rw [hconn]
    exact auth
  · rw [hconn]
  · rw [hconn]
    exact RequestTable.find?_append request _

/-- A body that ends the response completes the request. -/
theorem last (h : Awaits l r id slot body) (fits : Packet.Fits chunk)
    (kept : r.terminator.discards (r.encoding.received chunk) = false)
    (ends : r.terminator.endsWith (r.encoding.received chunk) = true) :
    progress id (l.apply (response id chunk)) = (none, [⟨slot, .answered body⟩]) := by
  obtain ⟨auth, rfl, request⟩ := h
  have hdeliver := RequestTable.deliver_of_find? request rfl kept l.conn.routing.strict
  rw [if_pos ends] at hdeliver
  obtain ⟨hended, hconn⟩ := apply_response auth fits hdeliver
  rw [progress, hended, waiting, hconn, RequestTable.find?_complete]
  rfl

/-- What becomes of a request that waits, by what its chunks count as: it is answered after the last
of them if none of them ends the response by itself, and then with all that they count as. -/
theorem run_responses_iff (h : Awaits l r id slot body)
    (marker : r.encoding.Representable r.terminator.marker)
    (markerFits : Packet.Fits (r.encoding.encode r.terminator.marker))
    (fits : ∀ chunk ∈ chunks, Packet.Fits chunk)
    (kept : ∀ chunk ∈ chunks, r.terminator.discards (r.encoding.received chunk) = false) :
    (l.run (responses r id chunks)).map (progress id) =
        chunks.map (fun _ => (some slot, [])) ++ [(none, [⟨slot, .answered text⟩])] ↔
      (∀ chunk ∈ chunks, r.terminator.endsWith (r.encoding.received chunk) = false) ∧
        body ++ String.join (chunks.map r.encoding.received) = text := by
  induction chunks generalizing l body with
  | nil =>
    have hmarker := Encoding.received_of_decode (Encoding.decode_encode marker)
    have hlast := h.last markerFits (by rw [hmarker, Terminator.discards_marker])
      (by rw [hmarker, Terminator.endsWith_iff])
    simp [responses, run, hlast]
  | cons chunk chunks ih =>
    obtain ⟨hfits, fits⟩ := List.forall_mem_cons.mp fits
    obtain ⟨hkept, kept⟩ := List.forall_mem_cons.mp kept
    have hrun : (l.run (responses r id (chunk :: chunks))).map (progress id) =
        progress id (l.apply (response id chunk)) ::
          ((l.apply (response id chunk)).2.2.run (responses r id chunks)).map (progress id) := rfl
    rw [hrun, List.map_cons, List.cons_append, List.cons.injEq, List.forall_mem_cons]
    by_cases hend : r.terminator.endsWith (r.encoding.received chunk) = true
    · -- The request is complete already, so it waits no longer.
      rw [h.last hfits hkept hend]
      simp [hend]
    · rw [Bool.not_eq_true] at hend
      obtain ⟨hended, hnext⟩ := h.more hfits hkept hend
      have hprogress : progress id (l.apply (response id chunk)) = (some slot, []) := by
        rw [progress, hended, waiting, hnext.request]
        rfl
      rw [hprogress, ih hnext fits kept, List.map_cons, String.join_cons, String.append_assoc]
      simp [hend]

end Awaits

end Link

namespace Cut

variable {r : Routing} {text : String} {chunks : List Bytes} {chunk : Bytes}

/-- No chunk counts as the trailer that is discarded. -/
theorem discards_received (cut : Cut r text chunks) (h : chunk ∈ chunks) :
    r.terminator.discards (r.encoding.received chunk) = false := by
  cases hterminator : r.terminator with
  | body marker => rfl
  | emptyEcho =>
    rw [Terminator.discards, beq_eq_false_iff_ne]
    unfold Encoding.received
    cases hs : r.encoding.decode chunk with
    | error fault => exact (by decide : "" ≠ Terminator.trailer)
    | ok s =>
      rintro rfl
      exact cut.ne_trailer hterminator chunk h (Encoding.encode_of_decode hs).symm

/-- A chunk that can be read does not end the response. -/
theorem endsWith_of_decode (cut : Cut r text chunks) (h : chunk ∈ chunks) {s : String}
    (hs : r.encoding.decode chunk = .ok s) : r.terminator.endsWith s = false := by
  rw [← Bool.not_eq_true, Terminator.endsWith_iff]
  rintro rfl
  exact cut.ne_marker chunk h (Encoding.encode_of_decode hs).symm

/-- A chunk that cannot be read loses its bytes, and no chunk gains any. -/
theorem length_encode_received (cut : Cut r text chunks) (h : chunk ∈ chunks) :
    (r.encoding.encode (r.encoding.received chunk)).length ≤ chunk.length ∧
      ((∀ s, r.encoding.decode chunk ≠ .ok s) →
        (r.encoding.encode (r.encoding.received chunk)).length < chunk.length) := by
  cases hs : r.encoding.decode chunk with
  | ok s =>
    rw [Encoding.received_of_decode hs, Encoding.encode_of_decode hs]
    exact ⟨Nat.le_refl _, fun hne => absurd rfl (hne s)⟩
  | error fault =>
    have hempty : r.encoding.received chunk = "" := by
      rw [Encoding.received, hs]
      rfl
    have hpos := List.length_pos_iff.mpr (cut.ne_nil chunk h)
    rw [hempty, Encoding.encode_empty]
    exact ⟨Nat.zero_le _, fun _ => hpos⟩

/-- Chunks that can be read are written back as they were. -/
theorem map_encode_received (hread : ∀ chunk ∈ chunks, ∃ s, r.encoding.decode chunk = .ok s) :
    (chunks.map r.encoding.received).map r.encoding.encode = chunks := by
  rw [List.map_map, List.map_congr_left (g := id), List.map_id]
  intro chunk hchunk
  obtain ⟨s, hs⟩ := hread chunk hchunk
  rw [Function.comp, Encoding.received_of_decode hs, Encoding.encode_of_decode hs, id]

/-- The chunks count as the whole response exactly if each can be read. -/
theorem join_received_iff (cut : Cut r text chunks) (writable : r.encoding.Representable text) :
    String.join (chunks.map r.encoding.received) = text ↔
      ∀ chunk ∈ chunks, ∃ s, r.encoding.decode chunk = .ok s := by
  constructor
  · -- What counts as the response has as many bytes as the response, so no chunk has lost any.
    intro hjoin
    by_contra hlost
    obtain ⟨chunk, hchunk, hne⟩ : ∃ chunk ∈ chunks, ∀ s, r.encoding.decode chunk ≠ .ok s := by
      simpa using hlost
    have hlength : (chunks.map fun c => (r.encoding.encode (r.encoding.received c)).length).sum =
        (chunks.map List.length).sum := by
      rw [← List.length_flatten, cut.flatten, ← hjoin, Encoding.encode_join, List.length_flatten,
        List.map_map, List.map_map]
      rfl
    have hless := List.sum_lt_sum (fun c => (r.encoding.encode (r.encoding.received c)).length)
      List.length (fun c hc => (cut.length_encode_received hc).1)
      ⟨chunk, hchunk, (cut.length_encode_received hchunk).2 hne⟩
    omega
  · intro hread
    refine Encoding.encode_injective (Encoding.representable_join.mpr ?_) writable ?_
    · intro s hs
      obtain ⟨chunk, hchunk, rfl⟩ := List.mem_map.mp hs
      obtain ⟨s, hs⟩ := hread chunk hchunk
      rw [Encoding.received_of_decode hs]
      exact Encoding.representable_of_decode hs
    · rw [Encoding.encode_join, map_encode_received hread, cut.flatten]

/-- The chunks can be read one by one exactly if they are cut between characters. -/
theorem betweenCharacters_iff (cut : Cut r text chunks) (writable : r.encoding.Representable text) :
    BetweenCharacters r.encoding text chunks ↔
      ∀ chunk ∈ chunks, ∃ s, r.encoding.decode chunk = .ok s := by
  constructor
  · rintro ⟨pieces, rfl, rfl⟩ chunk hchunk
    obtain ⟨piece, hpiece, rfl⟩ := List.mem_map.mp hchunk
    exact ⟨piece, Encoding.decode_encode (Encoding.representable_join.mp writable piece hpiece)⟩
  · intro hread
    exact ⟨_, (cut.join_received_iff writable).mpr hread, map_encode_received hread⟩

end Cut

namespace Link

/-- A response that is cut into packets comes out whole, and only when its last packet has arrived,
exactly if it is cut between characters. A response in an encoding of one byte per character always
is. -/
theorem reassembles_iff (l : Link) (id : Int32) (text : String) (chunks : List Bytes)
    (auth : l.conn.auth = none)
    (marker : l.conn.routing.encoding.Representable l.conn.routing.terminator.marker)
    (markerFits :
      Packet.Fits (l.conn.routing.encoding.encode l.conn.routing.terminator.marker))
    (writable : l.conn.routing.encoding.Representable text)
    (cut : Cut l.conn.routing text chunks) :
    (Reassembles l id chunks text ↔ BetweenCharacters l.conn.routing.encoding text chunks) ∧
      (l.conn.routing.encoding ≠ .utf8 → Reassembles l id chunks text) := by
  have hiff : Reassembles l id chunks text ↔
      BetweenCharacters l.conn.routing.encoding text chunks := by
    rw [cut.betweenCharacters_iff writable, ← cut.join_received_iff writable, Reassembles,
      (awaits_register auth id).run_responses_iff marker markerFits cut.fits
        fun _ h => cut.discards_received h, String.empty_append, and_iff_right_iff_imp,
      cut.join_received_iff writable]
    -- A chunk that can be read does not end the response.
    intro hread chunk hchunk
    obtain ⟨s, hs⟩ := hread chunk hchunk
    rw [Encoding.received_of_decode hs]
    exact cut.endsWith_of_decode hchunk hs
  -- In an encoding of one byte per character, every byte of the response can be read by itself.
  refine ⟨hiff, fun one => hiff.mpr ((cut.betweenCharacters_iff writable).mpr ?_)⟩
  intro chunk hchunk
  refine Encoding.exists_decode_of_subset one (s := text) fun b hb => ?_
  rw [← cut.flatten]
  exact List.mem_flatten_of_mem hchunk hb

instance (l : Link) (id : Int32) (chunks : List Bytes) (text : String) :
    Decidable (Reassembles l id chunks text) :=
  inferInstanceAs (Decidable (_ = _))

/-- A connection in UTF-8 that has just been opened. -/
def opened : Link :=
  { conn := { generation := 1 }, cell := { generation := 1, state := .ready }, listeners := {} }

/-- Two characters, of one byte and of two, arrive whole when each is a packet of its own. -/
theorem reassembles_two_characters : Cut {} "né" [[0x6E], [0xC3, 0xA9]] ∧
    BetweenCharacters .utf8 "né" [[0x6E], [0xC3, 0xA9]] ∧
      Reassembles opened 1 [[0x6E], [0xC3, 0xA9]] "né" := by
  have cut : Cut {} "né" [[0x6E], [0xC3, 0xA9]] := by
    constructor <;> decide
  have between : BetweenCharacters .utf8 "né" [[0x6E], [0xC3, 0xA9]] :=
    ⟨["n", "é"], by decide, by decide⟩
  exact ⟨cut, between,
    (reassembles_iff opened 1 "né" _ rfl (Encoding.representable_utf8 _) (by decide)
      (Encoding.representable_utf8 _) cut).1.mpr between⟩

/-- A cut within a character loses the character and may end the response: the two bytes of one
character, in a packet each, count as an empty body twice, and the first of them is taken for the
end. -/
theorem not_reassembles_within_character : Cut {} "é" [[0xC3], [0xA9]] ∧
    ¬ ∀ (l : Link) (id : Int32) (text : String) (chunks : List Bytes), l.conn.auth = none →
      l.conn.closed = false →
      l.conn.routing.encoding.Representable l.conn.routing.terminator.marker →
      l.conn.routing.encoding.Representable text → Cut l.conn.routing text chunks →
      Reassembles l id chunks text := by
  have cut : Cut {} "é" [[0xC3], [0xA9]] := by
    constructor <;> decide
  refine ⟨cut, fun h => ?_⟩
  have hwhole := h opened 1 "é" [[0xC3], [0xA9]] rfl rfl (Encoding.representable_utf8 _)
    (Encoding.representable_utf8 _) cut
  -- The request is answered with nothing when the first packet arrives.
  revert hwhole
  decide

end Link

end RemoteConsole
