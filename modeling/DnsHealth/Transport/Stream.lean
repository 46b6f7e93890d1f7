import DnsHealth.Transport.Datagram

/-!
# Exchange over a stream

On a stream every message stands behind its length in two octets. The peer's octets come in chunks
of any size; `Stream.take?` reads across them, so that only their concatenation matters. One frame
is read, and whatever follows it is left alone.
-/

namespace DnsHealth.Stream

/-- The most octets of a framed message. -/
def maxLength : Nat := 65535

/-- A message behind its length. -/
def frame (message : Bytes) : Bytes :=
  Bytes.ofUInt16 (UInt16.ofNat message.length) ++ message

/-- Exactly `count` octets, if the chunks hold as many, and the chunks that are left. -/
def take? (count : Nat) : List Bytes → Option (Bytes × List Bytes)
  | [] => if count = 0 then some ([], []) else none
  | chunk :: chunks =>
    if count ≤ chunk.length then some (chunk.take count, chunk.drop count :: chunks)
    else
      (take? (count - chunk.length) chunks).map fun (octets, left) => (chunk ++ octets, left)

/-- Reading across chunks is reading from their concatenation. -/
theorem take?_eq (count : Nat) (chunks : List Bytes) :
    (take? count chunks).map (fun read => (read.1, read.2.flatten)) =
      if count ≤ chunks.flatten.length then
        some (chunks.flatten.take count, chunks.flatten.drop count)
      else none := by
  induction chunks generalizing count with
  | nil =>
    by_cases h : count = 0 <;> simp [take?, h]
  | cons chunk chunks ih =>
    by_cases h : count ≤ chunk.length
    · have h' : count ≤ (chunk :: chunks).flatten.length := by
        simp only [List.flatten_cons, List.length_append]; omega
      rw [take?, if_pos h, if_pos h']
      simp [List.take_append_of_le_length h, List.drop_append_of_le_length h]
    · have hlen : (count ≤ (chunk :: chunks).flatten.length) =
          (count - chunk.length ≤ chunks.flatten.length) := by
        simp only [List.flatten_cons, List.length_append, eq_iff_iff]; omega
      rw [take?, if_neg h]
      simp only [hlen]
      have := ih (count - chunk.length)
      by_cases hrest : count - chunk.length ≤ chunks.flatten.length
      · rw [if_pos hrest] at this ⊢
        obtain ⟨read, hread, heq⟩ := Option.map_eq_some_iff.1 this
        obtain ⟨h1, h2⟩ := Prod.mk.injEq .. ▸ heq
        have hle : chunk.length ≤ count := by omega
        simp [hread, h1, h2, List.take_append, List.drop_append,
          List.take_of_length_le hle, List.drop_of_length_le hle]
      · rw [if_neg hrest] at this ⊢
        rw [Option.map_eq_none_iff] at this
        simp [this]

/-- The frame at the start of the peer's chunks. -/
def frame? (chunks : List Bytes) : Option Bytes :=
  match take? 2 chunks with
  | some ([high, low], left) => (take? (Bytes.toUInt16 high low).toNat left).map Prod.fst
  | _ => none

/-- The response in the peer's chunks. `short` is what a frame that is cut short amounts to. -/
def response (id : UInt16) (short : TransportError) (chunks : List Bytes) : Outcome Message :=
  match frame? chunks with
  | none => .error short
  | some body =>
    match Datagram.message body with
    | .error e => .error e
    | .ok response =>
      if response.header.id = id then .ok response
      else .error (.foreignId response.header.id id)

/-- An exchange: what is written, and what comes of it. -/
structure Exchange where
  sent : Bytes
  result : Outcome Message

/-- Send a query and read the response. A query that fits no frame is not sent at all. -/
def exchange (query : Bytes) (id : UInt16) (short : TransportError) (chunks : List Bytes) :
    Exchange :=
  if query.length ≤ maxLength then
    { sent := frame query, result := response id short chunks }
  else { sent := [], result := .error .oversized }

end DnsHealth.Stream
