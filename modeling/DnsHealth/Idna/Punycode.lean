/-!
# Punycode

The encoding of RFC 3492 of characters in letters, digits and hyphens: the ASCII characters in
order, a hyphen if there are any, then for each other character, in ascending order, how far an
insertion counter has to run to reach it. These distances are written with 36 digits in a mixed
radix that adapts to the distances seen.

All numbers stay below `2 ^ 32`; a distance that does not cannot be read.
-/

namespace DnsHealth.Idna.Punycode

def base : Nat := 36
def thresholdMin : Nat := 1
def thresholdMax : Nat := 26
def initialBias : Nat := 72

/-- The first code point that is not basic. -/
def initialCode : Nat := 128

/-- Numbers beyond this one overflow. -/
def limit : Nat := UInt32.size - 1

/-- The digits that a distance is divided down by before the bias is computed from it. -/
def settle (k delta : Nat) : Nat × Nat :=
  if (base - thresholdMin) * thresholdMax / 2 < delta then
    settle (k + base) (delta / (base - thresholdMin))
  else (k, delta)
termination_by delta
decreasing_by simp only [base, thresholdMin, thresholdMax] at *; omega

/-- The bias after a distance, when `count` characters are in place. -/
def adapt (delta count : Nat) (first : Bool) : Nat :=
  let scaled := if first then delta / 700 else delta / 2
  let (k, rest) := settle 0 (scaled + scaled / count)
  k + (base - thresholdMin + 1) * rest / (rest + 38)

/-- The threshold of the digit at position `k`. -/
def threshold (k bias : Nat) : Nat :=
  if k ≤ bias then thresholdMin else if bias + thresholdMax ≤ k then thresholdMax else k - bias

/-! ## Encoding -/

/-- The digit of a number below 36. -/
def digit (n : Nat) : Char :=
  if n < 26 then Char.ofNat (97 + n) else Char.ofNat (22 + n)

/-- The digits of a distance, from position `k` on. -/
def encodeDistance (bias k q : Nat) : List Char :=
  let t := threshold k bias
  if t ≤ q ∧ t < base then
    digit (t + (q - t) % (base - t)) :: encodeDistance bias (k + base) ((q - t) / (base - t))
  else [digit q]
termination_by q
decreasing_by
  rename_i h
  have ht : 1 ≤ threshold k bias := by
    unfold threshold thresholdMin thresholdMax
    split
    · omega
    · split <;> omega
  have hlt : (q - threshold k bias) / (base - threshold k bias) ≤ q - threshold k bias :=
    Nat.div_le_self _ _
  omega

/-- What is kept between insertions: the distance counted so far, the bias, the number of characters
in place, and the digits written, last part first. -/
structure EncodeState where
  delta : Nat
  bias : Nat
  count : Nat
  written : List (List Char)

/-- Run over the text once for the code point `n`, writing a distance wherever it occurs. -/
def encodePass (cs : List Char) (basicCount n : Nat) (s : EncodeState) : EncodeState :=
  cs.foldl
    (fun s c =>
      if c.toNat < n then { s with delta := s.delta + 1 }
      else if c.toNat = n then
        { delta := 0
          bias := adapt s.delta (s.count + 1) (s.count == basicCount)
          count := s.count + 1
          written := encodeDistance s.bias base s.delta :: s.written }
      else s)
    s

/-- Encode a text. The code points that are not basic are taken in ascending order. -/
def encode (cs : List Char) : List Char :=
  let basic := cs.filter fun c => c.toNat < initialCode
  let codes :=
    (((cs.filter fun c => initialCode ≤ c.toNat).map Char.toNat).mergeSort (· ≤ ·)).eraseReps
  let start : EncodeState :=
    { delta := 0, bias := initialBias, count := basic.length
      written := if basic.isEmpty then [] else [['-'], basic] }
  let final :=
    (codes.foldl
      (fun (previous, s) n =>
        let s := { s with delta := s.delta + (n - previous) * (s.count + 1) }
        let s := encodePass cs basic.length n s
        (n + 1, { s with delta := s.delta + 1 }))
      (initialCode, start)).2
  final.written.reverse.flatten

/-! ## Decoding -/

/-- The number of a digit; letters of both cases are the same. -/
def digitValue? (c : Char) : Option Nat :=
  if 'a' ≤ c ∧ c ≤ 'z' then some (c.toNat - 97)
  else if 'A' ≤ c ∧ c ≤ 'Z' then some (c.toNat - 65)
  else if '0' ≤ c ∧ c ≤ '9' then some (c.toNat - 22)
  else none

/-- Read a distance and add it to the counter `i`; answers with the counter and the rest. -/
def decodeDistance? (bias k weight i : Nat) : List Char → Option (Nat × List Char)
  | [] => none
  | c :: rest => do
    let d ← digitValue? c
    let i := i + d * weight
    let t := threshold k bias
    if limit < i then none
    else if d < t then some (i, rest)
    else if limit < weight * (base - t) then none
    else decodeDistance? bias (k + base) (weight * (base - t)) i rest

/-- Reading a distance takes at least one digit. -/
theorem length_lt_of_decodeDistance? {bias k weight i j : Nat} {cs rest : List Char}
    (h : decodeDistance? bias k weight i cs = some (j, rest)) : rest.length < cs.length := by
  induction cs generalizing k weight i with
  | nil => simp [decodeDistance?] at h
  | cons c cs ih =>
    simp only [decodeDistance?, Option.bind_eq_bind, Option.bind_eq_some_iff] at h
    obtain ⟨d, _, h⟩ := h
    split at h
    · simp at h
    · split at h
      · simp only [Option.some.injEq, Prod.mk.injEq] at h
        simp [h.2]
      · split at h
        · simp at h
        · have := ih h
          simp only [List.length_cons]
          omega

/-- Insert the characters that the digits describe into those in place. -/
def decodeFrom? (n i bias : Nat) (out digits : List Char) : Option (List Char) :=
  if digits.isEmpty then some out
  else
    match h : decodeDistance? bias base 1 i digits with
    | none => none
    | some (j, rest) =>
      have := length_lt_of_decodeDistance? h
      let count := out.length + 1
      let code := n + j / count
      let place := j % count
      if code.isValidChar then
        decodeFrom? code (place + 1) (adapt (j - i) count (i == 0))
          (out.take place ++ Char.ofNat code :: out.drop place) rest
      else none
termination_by digits.length

/-- Cut a text at its last hyphen. -/
def cutAtLastHyphen (cs : List Char) : List Char × List Char :=
  let reversed := cs.reverse
  match reversed.dropWhile (· != '-') with
  | [] => ([], cs)
  | _ :: before => (before.reverse, (reversed.takeWhile (· != '-')).reverse)

/-- Decode a text. A hyphen at the very start is not a separator, and so no digit either. -/
def decode? (cs : List Char) : Option (List Char) :=
  let (basic, digits) := cutAtLastHyphen cs
  if basic.isEmpty ∧ cs.head? = some '-' then none
  else if basic.all fun c => c.toNat < initialCode then
    decodeFrom? initialCode 0 initialBias basic digits
  else none

end DnsHealth.Idna.Punycode
