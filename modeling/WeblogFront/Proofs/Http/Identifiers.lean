import WeblogFront.Http.Service
import WeblogFront.Proofs.Text.Cut
import WeblogFront.Proofs.Text.Octets

/-! The identifier of a request. It is the one that came with the request, if it can be taken over, and a new
one otherwise; in either case it can be sent, so that every response bears it. -/
namespace WeblogFront.Http

variable {headers : Headers} {name value text id : String}

/-- Visible ASCII, spaces and tabs. -/
def Printable (text : List Char) : Prop :=
  ∀ c ∈ text, c = '\t' ∨ 0x20 ≤ c.toNat ∧ c.toNat ≤ 0x7E

def named (name : String) (headers : Headers) : Headers :=
  headers.filter fun header => lowerName header.1 == lowerName name

/-- A request brings an identifier along: the first header for it is printable, and what is left of it
without the blanks around it has a size that is allowed. -/
structure BringsId (headers : Headers) (id : String) : Prop where
  written : ∃ spelling value others, named requestIdHeader headers = (spelling, value) :: others ∧
    Printable value.toList ∧ Text.Trimmed Text.isBlank value.toList id.toList
  sized : 1 ≤ Text.octetLength id.toList ∧ Text.octetLength id.toList ≤ 128

/-- An octet of a random identifier, by its place: six bits of the sixteen octets are given, the rest of them
is as it was drawn. -/
def stamped (position octet : Nat) : Nat :=
  if position = 6 then 0x40 + octet % 0x10
  else if position = 8 then 0x80 + octet % 0x40
  else octet

structure Version4 (drawn : List UInt8) (text : List Char) : Prop where
  size : text.length = 36
  /-- Groups of eight, four, four, four and twelve, with two digits for each octet. -/
  groups : ∃ a b c d e, text = a ++ '-' :: b ++ '-' :: c ++ '-' :: d ++ '-' :: e ∧
    [a, b, c, d, e].map List.length = [8, 4, 4, 4, 12] ∧
    a ++ b ++ c ++ d ++ e = (List.range 16).flatMap fun position =>
      let octet := stamped position (drawn.getD position 0).toNat
      [Nat.digitChar (octet / 16), Nat.digitChar (octet % 16)]
  version : text[14]? = some '4'
  variant : ∃ digit ∈ ['8', '9', 'a', 'b'], text[19]? = some digit

/-- The identifier of a response, given what was brought along and what was drawn. -/
structure Identifies (brought : Headers) (drawn : List UInt8) (sent : Headers) (id : String) : Prop where
  single : named requestIdHeader sent = [(requestIdHeader, id)]
  printable : Printable id.toList
  inbound : ∀ text, BringsId brought text → id = text
  fresh : (∀ text, ¬ BringsId brought text) → id = Identifier.grouped drawn ∧ Version4 drawn id.toList

theorem header_value_eq_some_iff :
    headerValue? headers name = some value ↔
      ∃ spelling others, named name headers = (spelling, value) :: others := by
  rw [headerValue?, ← List.head?_filter, ← named]
  cases named name headers with
  | nil => simp
  | cons header others =>
    obtain ⟨spelling, first⟩ := header
    simp

theorem plain_text_eq_some_iff :
    plainText? value = some text ↔
      Printable value.toList ∧ Text.Trimmed Text.isBlank value.toList text.toList := by
  have printable : value.toList.all isPlain = true ↔ Printable value.toList := by
    simp [isPlain, Printable]
  rw [plainText?, ← printable, ← Text.trim_ends_eq_iff, ← Text.trim]
  split
  case isTrue plain => simp [plain, String.ext_iff]
  case isFalse plain => simp [plain]

theorem Printable.trimmed {value text : List Char} (printable : Printable value)
    (trimmed : Text.Trimmed Text.isBlank value text) : Printable text := by
  obtain ⟨lead, trail, rfl, _⟩ := trimmed.around
  exact fun c member => printable c (List.mem_append_left trail (List.mem_append_right lead member))

theorem Printable.octet_length {text : List Char} (printable : Printable text) :
    Text.octetLength text = text.length := by
  refine Text.octet_length_ascii fun c member => ?_
  rcases printable c member with rfl | visible
  · decide
  · omega

theorem inbound_eq_some_iff : inboundRequestId? headers = some id ↔ BringsId headers id := by
  rw [inboundRequestId?, headerText?]
  simp only [Option.filter_eq_some_iff, Option.bind_eq_some_iff, header_value_eq_some_iff,
    plain_text_eq_some_iff, decide_eq_true_eq]
  constructor
  · rintro ⟨⟨⟨value, ⟨spelling, others, found⟩, printable, trimmed⟩, nonempty⟩, short⟩
    refine ⟨⟨spelling, value, others, found, printable, trimmed⟩, ?_⟩
    rw [(printable.trimmed trimmed).octet_length, String.length_toList]
    exact ⟨Nat.pos_of_ne_zero (by simpa using nonempty), short⟩
  · rintro ⟨⟨spelling, value, others, found, printable, trimmed⟩, sized⟩
    rw [(printable.trimmed trimmed).octet_length, String.length_toList] at sized
    refine ⟨⟨⟨value, ⟨spelling, others, found⟩, printable, trimmed⟩, ?_⟩, sized.2⟩
    have nonempty := Nat.ne_of_gt sized.1
    simpa using nonempty

theorem octet_digits {drawn : List UInt8} {c : Char} (member : c ∈ Identifier.digits drawn) :
    ∃ value < 16, c = Nat.digitChar value := by
  obtain ⟨position, _, written⟩ := List.mem_flatMap.mp member
  have octet := (Identifier.fixBits position (drawn.getD position 0)).toNat_lt
  rcases List.mem_pair.mp written with rfl | rfl
  · exact ⟨_, Nat.div_lt_of_lt_mul octet, rfl⟩
  · exact ⟨_, Nat.mod_lt _ (by decide), rfl⟩

theorem grouped_subset (drawn : List UInt8) :
    (Identifier.grouped drawn).toList ⊆ '-' :: Identifier.digits drawn := by
  have behind {group : List Char} (inside : group ⊆ Identifier.digits drawn) :
      '-' :: group ⊆ '-' :: Identifier.digits drawn :=
    List.cons_subset_cons '-' inside
  have middle (start : Nat) :
      ((Identifier.digits drawn).drop start).take 4 ⊆ Identifier.digits drawn :=
    List.Subset.trans (List.take_subset _ _) (List.drop_subset _ _)
  rw [Identifier.grouped, String.toList_ofList]
  simp only [List.append_subset]
  exact ⟨⟨⟨⟨List.Subset.trans (List.take_subset _ _) (List.subset_cons_self _ _), behind (middle 8)⟩,
    behind (middle 12)⟩, behind (middle 16)⟩, behind (List.drop_subset _ _)⟩

theorem grouped_printable (drawn : List UInt8) : Printable (Identifier.grouped drawn).toList := by
  intro c member
  have digits : ∀ value < 16, 0x20 ≤ (Nat.digitChar value).toNat ∧ (Nat.digitChar value).toNat ≤ 0x7E := by
    decide
  rcases List.mem_cons.mp (grouped_subset drawn member) with rfl | digit
  · exact .inr (by decide)
  · obtain ⟨value, small, rfl⟩ := octet_digits digit
    exact .inr (digits value small)

theorem fix_bits_stamps (position : Nat) (octet : UInt8) :
    (Identifier.fixBits position octet).toNat = stamped position octet.toNat := by
  have version : ∀ n < 256, n &&& 0x0F ||| 0x40 = 0x40 + n % 0x10 := by decide +kernel
  have variant : ∀ n < 256, n &&& 0x3F ||| 0x80 = 0x80 + n % 0x40 := by decide +kernel
  unfold Identifier.fixBits stamped
  split
  · rw [UInt8.toNat_or, UInt8.toNat_and]
    exact version _ octet.toNat_lt
  · split
    · rw [UInt8.toNat_or, UInt8.toNat_and]
      exact variant _ octet.toNat_lt
    · rfl

theorem digits_stamped (drawn : List UInt8) :
    Identifier.digits drawn = (List.range 16).flatMap fun position =>
      let octet := stamped position (drawn.getD position 0).toNat
      [Nat.digitChar (octet / 16), Nat.digitChar (octet % 16)] := by
  unfold Identifier.digits Identifier.octetAt Identifier.octetHex
  simp only [fix_bits_stamps]

theorem grouped_version4 (drawn : List UInt8) : Version4 drawn (Identifier.grouped drawn).toList where
  size := by
    rw [Identifier.grouped, String.toList_ofList]
    rfl
  groups := by
    let text := Identifier.digits drawn
    refine ⟨text.take 8, (text.drop 8).take 4, (text.drop 12).take 4, (text.drop 16).take 4, text.drop 20,
      ?_, rfl, ?_⟩
    · exact String.toList_ofList
    · exact digits_stamped drawn
  version := by
    have stamp (n : Nat) : Nat.digitChar ((0x40 + n % 0x10) / 16) = '4' := by
      rw [show (0x40 + n % 0x10) / 16 = 4 by omega]
      rfl
    rw [Identifier.grouped, String.toList_ofList]
    simp only [digits_stamped]
    exact congrArg some (stamp _)
  variant := by
    have stamp : ∀ n < 256, Nat.digitChar ((0x80 + n % 0x40) / 16) ∈ ['8', '9', 'a', 'b'] := by
      decide +kernel
    refine ⟨_, stamp _ (drawn.getD 8 0).toNat_lt, ?_⟩
    rw [Identifier.grouped, String.toList_ofList]
    simp only [digits_stamped]
    rfl

theorem request_id_printable (arrival : Arrival) (headers : Headers) :
    Printable (Service.requestId arrival headers).toList := by
  unfold Service.requestId
  cases taken : inboundRequestId? headers with
  | none => exact grouped_printable arrival.drawnId
  | some id =>
    obtain ⟨_, _, _, _, printable, trimmed⟩ := (inbound_eq_some_iff.mp taken).written
    exact printable.trimmed trimmed

theorem request_id_sendable (arrival : Arrival) (headers : Headers) :
    isSendable (Service.requestId arrival headers) = true := by
  refine List.all_eq_true.mpr fun c member => ?_
  simp only [Bool.or_eq_true, Bool.and_eq_true, decide_eq_true_eq]
  rcases request_id_printable arrival headers c member with tab | visible
  · exact .inl tab
  · exact .inr (by omega)

theorem respond_result (service : Service) (arrival : Arrival) (caches : Caches) (request : Request) :
    (service.respond arrival caches request).result =
      let handled := (service.handle arrival caches request).result
      (if request.method = "HEAD" then handled.withoutBody else handled).withHeader requestIdHeader
        (Service.requestId arrival request.headers) :=
  if_pos (request_id_sendable arrival request.headers)

theorem request_id_brought {arrival : Arrival} (brought : BringsId headers id) :
    Service.requestId arrival headers = id := by
  rw [Service.requestId, inbound_eq_some_iff.mpr brought]
  rfl

theorem request_id_drawn {arrival : Arrival} (nothing : ∀ id, ¬ BringsId headers id) :
    Service.requestId arrival headers = Identifier.grouped arrival.drawnId := by
  have absent : inboundRequestId? headers = none :=
    Option.eq_none_iff_forall_ne_some.mpr fun id taken => nothing id (inbound_eq_some_iff.mp taken)
  rw [Service.requestId, absent]
  rfl

end WeblogFront.Http
