import MatrixGateway.Proofs.Addresses
import MatrixGateway.Proofs.Domains
import MatrixGateway.Proofs.Encodings
import MatrixGateway.Url.Host

/-!
# Hosts read back

The text of a host that was read is read as that host, unless it is a name
with a label too long to be read. None of its characters ends a server's part
of a URL, and colons stand in brackets only.
-/

set_option autoImplicit false

namespace MatrixGateway.Url.Host

/-! ## Dotted addresses -/

theorem number?_decimal : ∀ n < 256, number? (Nat.toDigits 10 n) = some n := by
  decide +kernel

theorem toDigits_all_isDigit (n : Nat) : (Nat.toDigits 10 n).all Char.isDigit = true :=
  List.all_eq_true.mpr fun _ hc => Nat.isDigit_of_mem_toDigits (by decide) (by decide) hc

theorem toDigits_plain {n : Nat} {c : Char} (hc : c ∈ Nat.toDigits 10 n) :
    Idna.isPlain c = true ∧ c ≠ '[' := by
  have key : ∀ d < 10, Idna.isPlain (Nat.digitChar d) = true ∧ Nat.digitChar d ≠ '[' := by
    decide
  obtain ⟨d, hd, rfl⟩ := mem_toDigits (by decide) hc
  exact key d hd

theorem toDigits_unmarked (n : Nat) : Idna.mark.isPrefixOf (Nat.toDigits 10 n) = false := by
  have hx : ('x' : Char).isDigit = false := by decide
  cases h : Nat.toDigits 10 n with
  | nil => exact absurd h Nat.toDigits_ne_nil
  | cons c cs =>
    have hall := toDigits_all_isDigit n
    rw [h, List.all_cons, Bool.and_eq_true] at hall
    rw [Bool.eq_false_iff]
    intro hp
    obtain ⟨hxc, -⟩ : 'x' = c ∧ _ := by simpa [Idna.mark, List.isPrefixOf] using hp
    rw [← hxc, hx] at hall
    exact absurd hall.1 (by decide)

theorem v4_toList (a : Ipv4) :
    a.text.toList = ['.'].intercalate (a.octets.map (Nat.toDigits 10)) := by
  simp only [Ipv4.text, String.toList_intercalate, List.map_map]
  congr 1
  exact List.map_congr_left fun n _ => by simp [digitText]

theorem parts_v4 (a : Ipv4) : parts a.text.toList = a.octets.map (Nat.toDigits 10) := by
  have hpieces : Text.pieces (· = '.') a.text.toList = a.octets.map (Nat.toDigits 10) := by
    rw [v4_toList]
    apply Text.pieces_intercalate _ '.' (by simp) _ (by simp [Ipv4.octets])
    intro p hp c hc
    obtain ⟨n, -, rfl⟩ := List.mem_map.mp hp
    simpa using ((Idna.isPlain_iff c).mp (toDigits_plain hc).1).2.2.2
  unfold parts
  simp only [hpieces]
  rw [if_neg]
  rintro ⟨-, hlast⟩
  simp [Ipv4.octets, Nat.toDigits_ne_nil] at hlast

theorem octets_lt (a : Ipv4) : ∀ n ∈ a.octets, n < 256 := by
  have h := a.number.toNat_lt
  intro n hn
  simp only [Ipv4.octets, List.mem_cons, List.not_mem_nil, or_false] at hn
  rcases hn with rfl | rfl | rfl | rfl <;> omega

theorem endsInNumber_v4 (a : Ipv4) : endsInNumber a.text.toList = true := by
  unfold endsInNumber
  rw [parts_v4]
  simp [Ipv4.octets, toDigits_all_isDigit, Nat.toDigits_ne_nil]

theorem v4_ne_nil (a : Ipv4) : a.text.toList ≠ [] := by
  intro hnil
  have h := endsInNumber_v4 a
  rw [hnil] at h
  exact absurd h (by decide)

theorem parseV4?_v4 (a : Ipv4) : parseV4? a.text.toList = some a := by
  have hnumbers : (a.octets.map (Nat.toDigits 10)).mapM number? = some a.octets := by
    rw [Idna.mapM_eq_some_iff, List.forall₂_map_left_iff, List.forall₂_same]
    exact fun n hn => number?_decimal n (octets_lt a n hn)
  have hoctets := octets_lt a
  unfold parseV4?
  rw [parts_v4, hnumbers]
  obtain ⟨x, y, z, w, ho, hsum⟩ : ∃ x y z w, a.octets = [x, y, z, w] ∧
      (((0 * 256 + x) * 256 + y) * 256 + z) * Nat.pow 256 (4 - 3) + w = a.number.toNat := by
    refine ⟨_, _, _, _, rfl, ?_⟩
    have hlt := a.number.toNat_lt
    simp only [show Nat.pow 256 (4 - 3) = 256 from rfl]
    omega
  rw [ho] at hoctets ⊢
  have hfront : [x, y, z].all (· < 256) = true :=
    List.all_eq_true.mpr fun n hn => decide_eq_true (hoctets n (List.mem_append_left [w] hn))
  have hlast : w < Nat.pow 256 (4 - 3) := hoctets w (by simp)
  simp only [Option.bind_eq_bind, Option.bind_some, List.dropLast_cons_cons,
    List.dropLast_singleton, List.getLast?_cons_cons, List.getLast?_singleton, List.length_cons,
    List.length_nil,
    List.foldl_cons, List.foldl_nil, Nat.zero_add, Nat.reduceAdd] at hsum ⊢
  rw [if_pos ⟨by decide, hfront, hlast⟩, hsum]
  exact congrArg (fun n => some (⟨n⟩ : Ipv4)) UInt32.ofNat_toNat

/-! ## Reading a host -/

def ofDomain (d : List Char) : Except UrlError Host :=
  if d = [] then .error .emptyHost
  else if endsInNumber d then
    match parseV4? d with
    | some a => .ok (v4 a)
    | none => .error .invalidIpv4
  else .ok (name d)

theorem parse_domain {s : List Char} (h : s.head? ≠ some '[') :
    parse s = match (Bytes.text? (decode (Bytes.ofText s))).bind Idna.toAscii? with
      | none => .error .invalidDomain
      | some d => ofDomain d := by
  unfold parse
  split
  · exact absurd rfl h
  · split <;> rename_i hd
    · rw [hd]
    · rw [hd]
      rfl
    · rename_i hne
      rw [hd]
      have hne : _ ≠ ([] : List Char) := fun e => hne e
      exact (if_neg hne).symm

theorem parse_unescaped {s : List Char} (h : s.head? ≠ some '[') (hp : '%' ∉ s) :
    parse s = match Idna.toAscii? s with
      | none => .error .invalidDomain
      | some d => ofDomain d := by
  have hbytes : ∀ b ∈ Bytes.ofText s, b ≠ 37 := by
    rintro b hb rfl
    rcases Bytes.mem_ofText hb with ⟨c, hc, hlt, hcb⟩ | hbig
    · have hn : c.toNat = 37 := by
        have := congrArg UInt8.toNat hcb
        rw [Bytes.toNat_ofNat (by omega)] at this
        exact this.symm
      have : c = '%' := Char.toNat_inj.mp hn
      exact hp (this ▸ hc)
    · exact absurd hbig (by decide)
  rw [parse_domain h, decode_eq_self _ hbytes, Bytes.text?_ofText]
  rfl

/-! ## Reading a host back -/

def isReadable : Host → Bool
  | name d => (Text.pieces (· = '.') d).all Idna.isReadable
  | _ => true

theorem parse_cases {s : List Char} {h : Host} (hp : parse s = .ok h) :
    (∃ a, h = v6 a) ∨ (∃ a, h = v4 a) ∨
      ∃ t d, Idna.toAscii? t = some d ∧ d ≠ [] ∧ endsInNumber d = false ∧ h = name d := by
  by_cases hb : s.head? = some '['
  · obtain ⟨rest, rfl⟩ : ∃ rest, s = '[' :: rest := by
      cases s with
      | nil => contradiction
      | cons c rest => exact ⟨rest, by rw [Option.some.inj hb]⟩
    change parseV6 rest = .ok h at hp
    unfold parseV6 at hp
    split at hp
    · rename_i a _ _
      exact Or.inl ⟨a, (Except.ok.inj hp).symm⟩
    · contradiction
  · rw [parse_domain hb] at hp
    split at hp
    · contradiction
    · rename_i d hd
      obtain ⟨t, -, ht⟩ := Option.bind_eq_some_iff.mp hd
      unfold ofDomain at hp
      split at hp
      · contradiction
      · rename_i hne
        split at hp
        · split at hp
          · rename_i a _
            exact Or.inr (Or.inl ⟨a, (Except.ok.inj hp).symm⟩)
          · contradiction
        · rename_i hn
          exact Or.inr (Or.inr ⟨t, d, ht, hne, eq_false_of_ne_true hn, (Except.ok.inj hp).symm⟩)

theorem mem_domain {t d : List Char} (h : Idna.toAscii? t = some d) {c : Char} (hc : c ∈ d) :
    Idna.isPlain c = true ∨ c = '.' := (Idna.toAscii?_again h).1 c hc

theorem mem_v4 {a : Ipv4} {c : Char} (hc : c ∈ a.text.toList) :
    Idna.isPlain c = true ∨ c = '.' := by
  rw [v4_toList] at hc
  rcases Text.mem_intercalate hc with rfl | ⟨p, hp, hcp⟩
  · exact Or.inr rfl
  · obtain ⟨n, -, rfl⟩ := List.mem_map.mp hp
    exact Or.inl (toDigits_plain hcp).1

theorem parse_plain {d : List Char} (h : ∀ c ∈ d, Idna.isPlain c = true ∨ c = '.') :
    parse d = match Idna.toAscii? d with
      | none => .error .invalidDomain
      | some d => ofDomain d := by
  have key : ∀ c : Char, c = '[' ∨ c = '%' → ¬ (Idna.isPlain c = true ∨ c = '.') := by
    rintro c (rfl | rfl) <;> decide
  refine parse_unescaped (fun hb => ?_) fun hp => key '%' (Or.inr rfl) (h _ hp)
  exact key '[' (Or.inl rfl) (h _ (List.mem_of_mem_head? hb))

theorem parse_name {t d : List Char} (h : Idna.toAscii? t = some d) (hd : d ≠ [])
    (hn : endsInNumber d = false) :
    parse d = if (name d).isReadable then .ok (name d) else .error .invalidDomain := by
  rw [parse_plain fun c hc => mem_domain h hc, (Idna.toAscii?_again h).2]
  change (match if (name d).isReadable = true then some d else none with
    | none => _
    | some d => ofDomain d) = _
  split <;> rename_i hr
  · split at hr
    · contradiction
    · rename_i hf
      rw [if_neg hf]
  · split at hr
    · rename_i hf
      rw [if_pos hf, ← Option.some.inj hr, ofDomain, if_neg hd, hn]
      rfl
    · contradiction

theorem parse_v4 (a : Ipv4) : parse (v4 a).text = .ok (v4 a) := by
  have hascii : Idna.toAscii? a.text.toList = some a.text.toList := by
    rw [v4_toList]
    refine Idna.toAscii?_unmarked _ (by simp [Ipv4.octets]) (fun f hf c hc => ?_) fun f hf => ?_
    · obtain ⟨n, -, rfl⟩ := List.mem_map.mp hf
      exact (toDigits_plain hc).1
    · obtain ⟨n, -, rfl⟩ := List.mem_map.mp hf
      exact toDigits_unmarked n
  rw [text, parse_plain fun c hc => mem_v4 hc, hascii]
  simp only [ofDomain, if_neg (v4_ne_nil a), endsInNumber_v4, if_true, parseV4?_v4]

theorem parse_v6 (a : Ipv6) : parse (v6 a).text = .ok (v6 a) := by
  change parseV6 (a.text.toList ++ [']']) = .ok (v6 a)
  unfold parseV6
  rw [List.getLast?_concat, List.dropLast_concat, Ipv6.parse?_text]
  rfl

/-- A host is read back from its text, unless a label of it is too long. -/
theorem parse_text {s : List Char} {h : Host} (hp : parse s = .ok h) :
    parse h.text = if h.isReadable then .ok h else .error .invalidDomain := by
  rcases parse_cases hp with ⟨a, rfl⟩ | ⟨a, rfl⟩ | ⟨t, d, ht, hd, hn, rfl⟩
  · exact parse_v6 a
  · exact parse_v4 a
  · exact parse_name ht hd hn

/-! ## Characters of a host -/

def isServerChar (c : Char) : Bool := 32 < c.toNat && !"/\\?#@".toList.contains c

/-- A text that is cut out of a URL as it is: colons stand in brackets only. -/
structure IsPart (t : List Char) : Prop where
  ne_nil : t ≠ []
  chars : ∀ c ∈ t, isServerChar c = true
  shape : (∀ c ∈ t, c ≠ ':' ∧ c ≠ '[' ∧ c ≠ ']') ∨
    ∃ body, t = '[' :: body ++ [']'] ∧ ∀ c ∈ body, c ≠ '[' ∧ c ≠ ']'

theorem plain_serverChar {c : Char} (h : Idna.isPlain c = true ∨ c = '.') :
    c.toNat < 127 ∧ isServerChar c = true ∧ c ≠ ':' ∧ c ≠ '[' ∧ c ≠ ']' := by
  have key : ∀ n < 128, Idna.isPlain (Char.ofNat n) = true ∨ Char.ofNat n = '.' →
      (Char.ofNat n).toNat < 127 ∧ isServerChar (Char.ofNat n) = true ∧ Char.ofNat n ≠ ':' ∧
        Char.ofNat n ≠ '[' ∧ Char.ofNat n ≠ ']' := by
    decide +kernel
  have hlt : c.toNat < 128 := by
    rcases h with h | rfl
    · exact ((Idna.isPlain_iff c).mp h).1
    · decide
  exact Text.of_ascii (P := fun c => Idna.isPlain c = true ∨ c = '.' →
    c.toNat < 127 ∧ isServerChar c = true ∧ c ≠ ':' ∧ c ≠ '[' ∧ c ≠ ']') key hlt h

theorem v6_serverChar {a : Ipv6} {c : Char} (hc : c ∈ a.text.toList) :
    c.toNat < 127 ∧ isServerChar c = true ∧ c ≠ '[' ∧ c ≠ ']' := by
  have key : ∀ d < 16, (Nat.digitChar d).toNat < 127 ∧ isServerChar (Nat.digitChar d) = true ∧
      Nat.digitChar d ≠ '[' ∧ Nat.digitChar d ≠ ']' := by
    decide
  rcases Ipv6.mem_text hc with rfl | ⟨d, hd, rfl⟩
  · decide
  · exact key d hd

theorem isPart_plain {t : List Char} (hne : t ≠ [])
    (h : ∀ c ∈ t, Idna.isPlain c = true ∨ c = '.') : IsPart t :=
  ⟨hne, fun c hc => (plain_serverChar (h c hc)).2.1,
    Or.inl fun c hc => (plain_serverChar (h c hc)).2.2⟩

theorem isPart_v6 (a : Ipv6) : IsPart (v6 a).text := by
  have hbrackets : isServerChar '[' = true ∧ isServerChar ']' = true := by decide
  refine ⟨by simp [text], fun c hc => ?_, Or.inr ⟨_, rfl, fun c hc => (v6_serverChar hc).2.2⟩⟩
  rcases List.mem_append.mp hc with hc | hc
  · rcases List.mem_cons.mp hc with rfl | hc
    · exact hbrackets.1
    · exact (v6_serverChar hc).2.1
  · rw [List.mem_singleton.mp hc]
    exact hbrackets.2

theorem isPart_text {s : List Char} {h : Host} (hp : parse s = .ok h) : IsPart h.text := by
  rcases parse_cases hp with ⟨a, rfl⟩ | ⟨a, rfl⟩ | ⟨t, d, ht, hd, -, rfl⟩
  · exact isPart_v6 a
  · exact isPart_plain (v4_ne_nil a) fun c hc => mem_v4 hc
  · exact isPart_plain hd fun c hc => mem_domain ht hc

theorem mem_text {s : List Char} {h : Host} (hp : parse s = .ok h) {c : Char} (hc : c ∈ h.text) :
    32 < c.toNat ∧ c.toNat < 127 := by
  have hvisible : 32 < c.toNat := by
    have hchar := (isPart_text hp).chars c hc
    rw [isServerChar, Bool.and_eq_true] at hchar
    exact of_decide_eq_true hchar.1
  refine ⟨hvisible, ?_⟩
  rcases parse_cases hp with ⟨a, rfl⟩ | ⟨a, rfl⟩ | ⟨t, d, ht, -, -, rfl⟩
  · rcases List.mem_append.mp hc with hc | hc
    · rcases List.mem_cons.mp hc with rfl | hc
      · decide
      · exact (v6_serverChar hc).1
    · rw [List.mem_singleton.mp hc]
      decide
  · exact (plain_serverChar (mem_v4 hc)).1
  · exact (plain_serverChar (mem_domain ht hc)).1

end MatrixGateway.Url.Host
