/-! UTF-8 as arithmetic on code points. `octets` writes a text, `scalar?` reads the character at the
head of an octet list, and `lossy` reads any octets at all: where no character starts, the longest
run that begins like one and can no longer become one turns into a single replacement character. -/
namespace WeblogFront.Text

def charOctets (c : Char) : List UInt8 :=
  let n := c.toNat
  if n < 0x80 then [UInt8.ofNat n]
  else if n < 0x800 then [UInt8.ofNat (0xC0 + n / 0x40), UInt8.ofNat (0x80 + n % 0x40)]
  else if n < 0x10000 then
    [UInt8.ofNat (0xE0 + n / 0x1000), UInt8.ofNat (0x80 + n / 0x40 % 0x40),
      UInt8.ofNat (0x80 + n % 0x40)]
  else
    [UInt8.ofNat (0xF0 + n / 0x40000), UInt8.ofNat (0x80 + n / 0x1000 % 0x40),
      UInt8.ofNat (0x80 + n / 0x40 % 0x40), UInt8.ofNat (0x80 + n % 0x40)]

def octets (text : List Char) : List UInt8 :=
  text.flatMap charOctets

/-- Lengths that users see are lengths in octets. -/
def octetLength (text : List Char) : Nat :=
  (octets text).length

def isTail (octet : Nat) : Bool :=
  0x80 ≤ octet && octet ≤ 0xBF

/-- The octets a lead asks for, itself included; 0 for an octet that leads nothing. -/
def width (lead : Nat) : Nat :=
  if lead < 0x80 then 1
  else if lead < 0xC2 then 0
  else if lead < 0xE0 then 2
  else if lead < 0xF0 then 3
  else if lead < 0xF5 then 4
  else 0

/-- The second octet also rules out overlong forms, surrogates and code points past the last one. -/
def isSecond (lead octet : Nat) : Bool :=
  if lead = 0xE0 then 0xA0 ≤ octet && octet ≤ 0xBF
  else if lead = 0xED then 0x80 ≤ octet && octet ≤ 0x9F
  else if lead = 0xF0 then 0x90 ≤ octet && octet ≤ 0xBF
  else if lead = 0xF4 then 0x80 ≤ octet && octet ≤ 0x8F
  else isTail octet

def scalar? : List UInt8 → Option (Char × List UInt8)
  | [] => none
  | first :: rest =>
    let a := first.toNat
    match width a, rest with
    | 1, _ => some (Char.ofNat a, rest)
    | 2, second :: rest =>
      let b := second.toNat
      if isSecond a b then some (Char.ofNat ((a - 0xC0) * 0x40 + (b - 0x80)), rest) else none
    | 3, second :: third :: rest =>
      let b := second.toNat
      let c := third.toNat
      if isSecond a b && isTail c then
        some (Char.ofNat ((a - 0xE0) * 0x1000 + (b - 0x80) * 0x40 + (c - 0x80)), rest)
      else none
    | 4, second :: third :: fourth :: rest =>
      let b := second.toNat
      let c := third.toNat
      let d := fourth.toNat
      if isSecond a b && isTail c && isTail d then
        some (Char.ofNat
          ((a - 0xF0) * 0x40000 + (b - 0x80) * 0x1000 + (c - 0x80) * 0x40 + (d - 0x80)), rest)
      else none
    | _, _ => none

/-- The octets after the first that still agree with some character, when no character is complete. -/
def agreeing (lead : Nat) : List UInt8 → Nat
  | [] => 0
  | second :: rest =>
    if 1 < width lead && isSecond lead second.toNat then
      match rest with
      | third :: _ => if width lead = 4 && isTail third.toNat then 2 else 1
      | [] => 1
    else 0

theorem scalar_shorter {input rest : List UInt8} {c : Char} (found : scalar? input = some (c, rest)) :
    rest.length < input.length := by
  have pair : ∀ {left right : Char × List UInt8}, some left = some right → left.2 = right.2 :=
    fun same => congrArg Prod.snd (Option.some.inj same)
  unfold scalar? at found
  split at found
  · nomatch found
  · dsimp only at found
    split at found
    · have same := pair found
      simp only at same
      subst same
      simp only [List.length_cons]
      omega
    · split at found
      · have same := pair found
        simp only at same
        subst same
        simp only [List.length_cons]
        omega
      · nomatch found
    · split at found
      · have same := pair found
        simp only at same
        subst same
        simp only [List.length_cons]
        omega
      · nomatch found
    · split at found
      · have same := pair found
        simp only at same
        subst same
        simp only [List.length_cons]
        omega
      · nomatch found
    · nomatch found

def lossy (input : List UInt8) : List Char :=
  match input with
  | [] => []
  | first :: rest =>
    match _read : scalar? (first :: rest) with
    | some (c, others) => c :: lossy others
    | none => '\uFFFD' :: lossy (rest.drop (agreeing first.toNat rest))
termination_by input.length
decreasing_by
  · exact scalar_shorter _read
  · simp only [List.length_drop, List.length_cons]; omega

def strict? (input : List UInt8) : Option (List Char) :=
  match input with
  | [] => some []
  | first :: rest =>
    match _read : scalar? (first :: rest) with
    | some (c, others) => (strict? others).map (c :: ·)
    | none => none
termination_by input.length
decreasing_by exact scalar_shorter _read

end WeblogFront.Text
