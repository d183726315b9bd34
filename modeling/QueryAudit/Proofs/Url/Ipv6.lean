import Mathlib.Data.List.TakeWhile
import QueryAudit.Proofs.Cut
import QueryAudit.Proofs.Outcome
import QueryAudit.Proofs.Numeral
import QueryAudit.Url.Ipv6
/-!
# IPv6 addresses that are read back

`Ipv6.parse_render`: an address of eight pieces of 16 bits is read from what it is written as, whichever run of zeros is
left out there. Every address that is read has eight such pieces: `Ipv6.fits_of_parse`.
-/

namespace QueryAudit.Url.Ipv6

/-- An address of eight pieces of 16 bits. -/
structure Fits (a : Ipv6) : Prop where
  length : a.pieces.length = count
  piece : ∀ p ∈ a.pieces, p < 0x10000

/-! ## What is read -/

theorem octet?_lt {cs rest : List Char} {n : Nat} (h : octet? cs = some (n, rest)) : n < 256 := by
  unfold octet? at h
  dsimp only at h
  split at h
  · split at h
    · cases h
    · next hle =>
      cases h
      omega
  · cases h

theorem embedded?_fits {cs : List Char} {last : List Nat} (h : embedded? cs = some last) :
    last.length = 2 ∧ ∀ p ∈ last, p < 0x10000 := by
  unfold embedded? at h
  obtain ⟨⟨a, _⟩, ha, h⟩ := Option.bind_eq_some_iff.1 h
  obtain ⟨_, -, h⟩ := Option.bind_eq_some_iff.1 h
  obtain ⟨⟨b, _⟩, hb, h⟩ := Option.bind_eq_some_iff.1 h
  obtain ⟨_, -, h⟩ := Option.bind_eq_some_iff.1 h
  obtain ⟨⟨c, _⟩, hc, h⟩ := Option.bind_eq_some_iff.1 h
  obtain ⟨_, -, h⟩ := Option.bind_eq_some_iff.1 h
  obtain ⟨⟨d, _⟩, hd, h⟩ := Option.bind_eq_some_iff.1 h
  dsimp only at h
  split at h
  · cases h
    have hoctets := And.intro (And.intro (octet?_lt ha) (octet?_lt hb)) (And.intro (octet?_lt hc) (octet?_lt hd))
    exact ⟨rfl, List.forall_mem_cons.2 ⟨by omega, List.forall_mem_singleton.2 (by omega)⟩⟩
  · cases h

/-- How far an address is read: the pieces so far, the positions that are left, and one for the gap fill it up. -/
structure Reads (room : Nat) (gap : Option Nat) (read : List Nat) : Prop where
  length : read.length + room + gap.toList.length = count
  piece : ∀ p ∈ read, p < 0x10000

theorem fits_of_close? {gap : Option Nat} {read : List Nat} {a : Ipv6} (hlength : read.length ≤ count)
    (hpiece : ∀ p ∈ read, p < 0x10000) (h : close? gap read = some a) : a.Fits := by
  unfold close? at h
  dsimp only at h
  split at h
  · split at h
    · next hcount =>
      cases h
      exact ⟨hcount, fun p hp => hpiece p (List.mem_reverse.1 hp)⟩
    · cases h
  · next before =>
    cases h
    constructor
    · simp only [List.length_append, List.length_take, List.length_replicate, List.length_drop, List.length_reverse]
      omega
    · simp only [List.forall_mem_append]
      refine ⟨⟨fun p hp => ?_, fun p hp => ?_⟩, fun p hp => ?_⟩
      · exact hpiece p (List.mem_reverse.1 (List.mem_of_mem_take hp))
      · rw [(List.mem_replicate.1 hp).2]
        decide
      · exact hpiece p (List.mem_reverse.1 (List.mem_of_mem_drop hp))

/-- What is read of an address with room for another piece: the gap, a piece, or the octets at its end. -/
theorem pieces?_cases {room : Nat} {gap : Option Nat} {read : List Nat} {c : Char} {cs : List Char} {a : Ipv6}
    (h : pieces? (room + 1) gap read (c :: cs) = some a) :
    gap = none ∧ pieces? room (some read.length) read cs = some a ∨
    (∃ p rest, p < 0x10000 ∧ pieces? room gap (p :: read) rest = some a) ∨
    ∃ last : List Nat, room ≠ 0 ∧ last.length = 2 ∧ (∀ p ∈ last, p < 0x10000) ∧
      close? gap (last.reverse ++ read) = some a := by
  have hpiece {ds : List Char} (hlength : ds.length ≤ 4) : (Numeral.ofChars? 16 ds).getD 0 < 0x10000 := by
    cases hn : Numeral.ofChars? 16 ds with
    | none => decide
    | some n => exact Nat.lt_of_lt_of_le (Numeral.lt_of_ofChars? hn) (Nat.pow_le_pow_right (by decide) hlength)
  rw [pieces?] at h
  split at h
  · split at h
    · cases h
    · next hgap => exact .inl ⟨by simpa using hgap, h⟩
  dsimp only at h
  have hlength : (((c :: cs).take 4).takeWhile fun d => (Numeral.hexDigit? d).isSome).length ≤ 4 :=
    Nat.le_trans (List.takeWhile_sublist _).length_le (by rw [List.length_take]; exact Nat.min_le_left ..)
  split at h
  · exact .inr (.inl ⟨_, _, hpiece hlength, h⟩)
  · split at h
    · cases h
    · next hroom =>
      obtain ⟨last, hlast, h⟩ := Option.bind_eq_some_iff.1 h
      obtain ⟨htwo, hfits⟩ := embedded?_fits hlast
      exact .inr (.inr ⟨last, fun hzero => hroom (.inr hzero), htwo, hfits, h⟩)
  · split at h
    · cases h
    · exact .inr (.inl ⟨_, _, hpiece hlength, h⟩)
  · cases h

theorem fits_of_pieces? {room : Nat} {gap : Option Nat} {read : List Nat} {cs : List Char} {a : Ipv6}
    (hreads : Reads room gap read) (h : pieces? room gap read cs = some a) : a.Fits := by
  -- The induction is on the room, not on the text: each step takes a position, and no more can be read than there are.
  have hlength := hreads.length
  induction room generalizing gap read cs with
  | zero =>
    cases cs with
    | nil => exact fits_of_close? (by omega) hreads.piece h
    | cons c cs => cases h
  | succ room ih =>
    cases cs with
    | nil => exact fits_of_close? (by omega) hreads.piece h
    | cons c cs =>
      rcases pieces?_cases h with ⟨rfl, hrest⟩ | ⟨p, rest, hp, hrest⟩ | ⟨last, hroom, htwo, hlast, hclose⟩
      · have hgap : Reads room (some read.length) read := ⟨by simp at hlength ⊢; omega, hreads.piece⟩
        exact ih hgap hrest hgap.length
      · have hnext : Reads room gap (p :: read) :=
          ⟨by rw [List.length_cons]; omega, List.forall_mem_cons.2 ⟨hp, hreads.piece⟩⟩
        exact ih hnext hrest hnext.length
      · refine fits_of_close? ?_ (List.forall_mem_append.2 ⟨?_, hreads.piece⟩) hclose
        · rw [List.length_append, List.length_reverse]
          omega
        · exact fun p hp => hlast p (List.mem_reverse.1 hp)

theorem fits_of_parse {cs : List Char} {a : Ipv6} (h : parse cs = .ok a) : a.Fits := by
  unfold parse at h
  dsimp only at h
  split at h
  · next ha =>
    cases h
    split at ha
    · cases ha
    · split at ha
      · exact fits_of_pieces? ⟨rfl, by simp⟩ ha
      · cases ha
      · exact fits_of_pieces? ⟨rfl, by simp⟩ ha
  · cases h

/-! ## The written form -/

/-- A piece begins with a digit. -/
theorem exists_hex_cons (p : Nat) : ∃ c cs, c ≠ ':' ∧ Numeral.hex p = c :: cs := by
  obtain ⟨c, cs, hhex⟩ := List.exists_cons_of_ne_nil (Nat.toDigits_ne_nil (b := 16) (n := p))
  have hc : c ∈ Nat.toDigits 16 p := hhex ▸ List.mem_cons_self
  have hdigit := Numeral.isSome_hexDigit?_of_mem_toDigits (by decide) (by decide) hc
  refine ⟨c, cs, ?_, hhex⟩
  rintro rfl
  cases hdigit

section pieces

variable {p : Nat} (hp : p < 0x10000) (room : Nat) (gap : Option Nat) (read : List Nat)

include hp

/-- The digits of a piece are read as far as they go. -/
theorem takeWhile_hex {rest : List Char} (hrest : ∀ c ∈ rest.head?, c = ':') :
    ((Numeral.hex p ++ rest).take 4).takeWhile (fun d => (Numeral.hexDigit? d).isSome) = Numeral.hex p := by
  have hlength : (Numeral.hex p).length ≤ 4 := (Nat.length_toDigits_le_iff (by decide) (by decide)).2 hp
  have hdigits : ∀ c ∈ Numeral.hex p, (Numeral.hexDigit? c).isSome = true := fun c hc =>
    Numeral.isSome_hexDigit?_of_mem_toDigits (by decide) (by decide) hc
  rw [List.take_append, List.take_of_length_le hlength, List.takeWhile_append_of_pos hdigits]
  cases rest with
  | nil => simp
  | cons c rest =>
    -- Of fewer than four digits the colon behind them is looked at too, and is no digit.
    obtain rfl := hrest c rfl
    cases 4 - (Numeral.hex p).length with
    | zero => simp
    | succ k => simp [Numeral.hexDigit?]

theorem pieces?_piece {rest : List Char} (hrest : rest ≠ []) :
    pieces? (room + 1) gap read (Numeral.hex p ++ ':' :: rest) = pieces? room gap (p :: read) rest := by
  have hcolon : ∀ c ∈ (':' :: rest).head?, c = ':' := by simp
  have htake := takeWhile_hex hp hcolon
  obtain ⟨c, cs, hc, hhex⟩ := exists_hex_cons p
  rw [hhex, List.cons_append] at htake ⊢
  rw [pieces?, if_neg hc]
  dsimp only
  rw [htake, ← List.cons_append, ← hhex, List.drop_left, Numeral.hex, Numeral.ofChars?_toDigits (by decide) (by decide)]
  change (if rest.isEmpty = true then none else pieces? room gap (p :: read) rest) = _
  rw [if_neg (by simpa using hrest)]

theorem pieces?_last : pieces? (room + 1) gap read (Numeral.hex p) = close? gap (p :: read) := by
  have hnone : ∀ c ∈ ([] : List Char).head?, c = ':' := nofun
  have htake := takeWhile_hex hp hnone
  obtain ⟨c, cs, hc, hhex⟩ := exists_hex_cons p
  rw [List.append_nil] at htake
  rw [hhex] at htake ⊢
  rw [pieces?, if_neg hc]
  dsimp only
  rw [htake, List.drop_length, ← hhex, Numeral.hex, Numeral.ofChars?_toDigits (by decide) (by decide), pieces?,
    Option.getD_some]

end pieces

/-- Pieces with a colon behind each. -/
def colons (ps : List Nat) : List Char := ps.flatMap fun p => Numeral.hex p ++ [':']

/-- Pieces with colons between them. -/
def write (ps : List Nat) : List Char := [':'].intercalate (ps.map Numeral.hex)

theorem write_append (ps : List Nat) (p : Nat) : write (ps ++ [p]) = colons ps ++ Numeral.hex p := by
  induction ps with
  | nil => simp [write, colons]
  | cons q ps ih =>
    obtain ⟨r, rs, hrs⟩ := List.exists_cons_of_ne_nil (List.append_ne_nil_of_right_ne_nil ps (List.cons_ne_nil p []))
    rw [hrs] at ih
    rw [List.cons_append, hrs, colons, List.flatMap_cons, ← colons, List.append_assoc, ← ih]
    exact List.intercalate_cons_cons ..

theorem write_append_colon {ps : List Nat} (h : ps ≠ []) : write ps ++ [':'] = colons ps := by
  rcases List.eq_nil_or_concat ps with rfl | ⟨front, p, rfl⟩
  · exact absurd rfl h
  · rw [List.concat_eq_append, write_append]
    simp [colons]

/-- Pieces that are followed by something are read one by one, each taking a position. -/
theorem pieces?_colons {ps : List Nat} (hps : ∀ p ∈ ps, p < 0x10000) {rest : List Char} (hrest : rest ≠ []) (room : Nat)
    (gap : Option Nat) (read : List Nat) :
    pieces? (ps.length + room) gap read (colons ps ++ rest) = pieces? room gap (ps.reverse ++ read) rest := by
  induction ps generalizing read with
  | nil => simp [colons]
  | cons p ps ih =>
    obtain ⟨hp, hps⟩ := List.forall_mem_cons.1 hps
    have hne : colons ps ++ rest ≠ [] := List.append_ne_nil_of_right_ne_nil _ hrest
    have hroom : (p :: ps).length + room = ps.length + room + 1 := by
      rw [List.length_cons]
      omega
    have htext : colons (p :: ps) ++ rest = Numeral.hex p ++ ':' :: (colons ps ++ rest) := by
      simp only [colons, List.flatMap_cons, List.append_assoc, List.cons_append, List.nil_append]
    rw [hroom, htext, pieces?_piece hp _ _ _ hne, ih hps, List.reverse_cons, List.append_assoc, List.singleton_append]

/-- All pieces that are written are read, if there is room for them. -/
theorem pieces?_write {ps : List Nat} (hps : ∀ p ∈ ps, p < 0x10000) (room : Nat) (gap : Option Nat) (read : List Nat) :
    pieces? (ps.length + room) gap read (write ps) = close? gap (ps.reverse ++ read) := by
  rcases List.eq_nil_or_concat ps with rfl | ⟨front, p, rfl⟩
  · rw [write, List.map_nil, List.intercalate_nil, pieces?]
    rfl
  · rw [List.concat_eq_append] at hps ⊢
    obtain ⟨hfront, hp⟩ := List.forall_mem_append.1 hps
    have hroom : (front ++ [p]).length + room = front.length + (room + 1) := by
      rw [List.length_append, List.length_singleton]
      omega
    have hne : Numeral.hex p ≠ [] := Nat.toDigits_ne_nil
    rw [hroom, write_append, pieces?_colons hfront hne, pieces?_last (hp p (List.mem_singleton_self p)),
      List.reverse_append]
    rfl

/-! ## The run of zeros -/

/-- Which run is the longest does not matter here, only that it is one of them. -/
theorem foldl_longer_mem (runs : List (Nat × Nat)) (best : Nat × Nat) :
    runs.foldl (fun best run => if best.2 < run.2 then run else best) best ∈ best :: runs := by
  induction runs generalizing best with
  | nil => exact List.mem_singleton_self _
  | cons run runs ih =>
    rw [List.foldl_cons]
    split
    · exact List.mem_cons_of_mem _ (ih run)
    · rcases List.mem_cons.1 (ih best) with h | h
      · exact List.mem_cons.2 (.inl h)
      · exact List.mem_cons_of_mem _ (List.mem_cons_of_mem _ h)

/-- Nothing but zeros is left out. -/
theorem drop_zeroRun (ps : List Nat) :
    ps.drop (zeroRun ps).1 = List.replicate (zeroRun ps).2 0 ++ ps.drop ((zeroRun ps).1 + (zeroRun ps).2) := by
  have hmem : zeroRun ps ∈ (0, 0) :: (List.range ps.length).map fun i => (i, ((ps.drop i).takeWhile (· == 0)).length) :=
    foldl_longer_mem _ _
  rcases List.mem_cons.1 hmem with h | h
  · rw [h]
    rfl
  · obtain ⟨i, -, hi⟩ := List.mem_map.1 h
    rw [← hi]
    dsimp only
    have hzeros : (ps.drop i).takeWhile (· == 0) = List.replicate ((ps.drop i).takeWhile (· == 0)).length 0 :=
      List.eq_replicate_iff.2 ⟨rfl, fun p hp => by simpa using List.mem_takeWhile_imp hp⟩
    have hsplit := List.takeWhile_append_dropWhile (p := (· == 0)) (l := ps.drop i)
    have hbehind := congrArg (List.drop ((ps.drop i).takeWhile (· == 0)).length) hsplit
    rw [List.drop_left] at hbehind
    rw [← hzeros, ← List.drop_drop, ← hbehind, hsplit]

/-! ## The address as a whole -/

/-- An address that begins with a piece and a colon. -/
theorem parse_of_pieces? {p : Nat} {rest : List Char} {a : Ipv6}
    (h : pieces? count none [] (Numeral.hex p ++ ':' :: rest) = some a) :
    parse (Numeral.hex p ++ ':' :: rest) = .ok a := by
  obtain ⟨c, cs, hc, hhex⟩ := exists_hex_cons p
  have hne : cs ++ ':' :: rest ≠ [] := List.append_ne_nil_of_right_ne_nil _ (List.cons_ne_nil _ _)
  obtain ⟨d, text, htext⟩ := List.exists_cons_of_ne_nil hne
  rw [hhex, List.cons_append, htext] at h ⊢
  unfold parse
  rw [if_neg (by simp)]
  simp [hc, h]

theorem parse_of_gap {text : List Char} {a : Ipv6} (h : pieces? (count - 1) (some 0) [] text = some a) :
    parse (':' :: ':' :: text) = .ok a := by
  unfold parse
  rw [if_neg (by simp)]
  simp [h]

theorem pieces?_gap (room : Nat) (read : List Nat) (cs : List Char) :
    pieces? (room + 1) none read (':' :: cs) = pieces? room (some read.length) read cs := by
  rw [pieces?, if_pos rfl]
  rfl

theorem close?_none {ps : List Nat} (h : ps.length = count) : close? none ps.reverse = some ⟨ps⟩ := by
  simp [close?, h]

/-- The gap stands for as many zeros as pieces are missing. -/
theorem close?_some (front back : List Nat) : close? (some front.length) (back.reverse ++ front.reverse) =
    some ⟨front ++ List.replicate (count - (front.length + back.length)) 0 ++ back⟩ := by
  simp [close?]

/-- Eight pieces without a gap. -/
theorem parse_write {ps : List Nat} (hlength : ps.length = count) (hps : ∀ p ∈ ps, p < 0x10000) :
    parse (write ps) = .ok ⟨ps⟩ := by
  have hpieces := pieces?_write hps 0 none []
  rw [List.append_nil, Nat.add_zero, hlength, close?_none hlength] at hpieces
  match ps with
  | [] => cases hlength
  | [_] => cases hlength
  | p :: q :: ps =>
    have htext : write (p :: q :: ps) = Numeral.hex p ++ ':' :: write (q :: ps) := by
      rw [write, List.map_cons, List.map_cons, List.intercalate_cons_cons, List.append_assoc]
      rfl
    rw [htext] at hpieces ⊢
    exact parse_of_pieces? hpieces

/-- Pieces on both sides of a gap that stands for at least one. -/
theorem parse_write_gap {front back : List Nat} (hlength : front.length + back.length < count)
    (hfront : ∀ p ∈ front, p < 0x10000) (hback : ∀ p ∈ back, p < 0x10000) :
    parse (write front ++ [':', ':'] ++ write back) =
      .ok ⟨front ++ List.replicate (count - (front.length + back.length)) 0 ++ back⟩ := by
  -- What is left of the positions behind the pieces and the gap stays unused.
  obtain ⟨room, hroom⟩ : ∃ room, count = front.length + (back.length + room + 1) :=
    ⟨count - (front.length + back.length) - 1, by omega⟩
  have hgap : pieces? (back.length + room) (some front.length) front.reverse (write back) =
      some ⟨front ++ List.replicate (count - (front.length + back.length)) 0 ++ back⟩ := by
    rw [pieces?_write hback, close?_some]
  cases front with
  | nil =>
    have hcount : count - 1 = back.length + room := by
      rw [List.length_nil] at hroom
      omega
    refine parse_of_gap ?_
    rw [hcount]
    exact hgap
  | cons p front =>
    have htext : write (p :: front) ++ [':', ':'] ++ write back = colons (p :: front) ++ ':' :: write back := by
      rw [← write_append_colon (List.cons_ne_nil p front)]
      simp
    have hhex : colons (p :: front) ++ ':' :: write back =
        Numeral.hex p ++ ':' :: (colons front ++ ':' :: write back) := by
      simp [colons]
    rw [htext, hhex]
    refine parse_of_pieces? ?_
    have hread := pieces?_colons hfront (List.cons_ne_nil ':' (write back)) (back.length + room + 1) none []
    rw [← hroom, List.append_nil, pieces?_gap, List.length_reverse, hgap, hhex] at hread
    exact hread

theorem render_eq (a : Ipv6) : a.render = if (zeroRun a.pieces).2 < 2 then write a.pieces
    else write (a.pieces.take (zeroRun a.pieces).1) ++ [':', ':'] ++
      write (a.pieces.drop ((zeroRun a.pieces).1 + (zeroRun a.pieces).2)) := rfl

/-- Nothing but digits and colons is written. -/
theorem isSome_hexDigit?_of_mem_render {a : Ipv6} : ∀ c ∈ a.render, (Numeral.hexDigit? c).isSome = true ∨ c = ':' := by
  have hwrite (ps : List Nat) : ∀ c ∈ write ps, (Numeral.hexDigit? c).isSome = true ∨ c = ':' := by
    refine Text.forall_mem_intercalate (by simp) fun part hpart c hc => .inl ?_
    obtain ⟨n, -, rfl⟩ := List.mem_map.1 hpart
    exact Numeral.isSome_hexDigit?_of_mem_toDigits (by decide) (by decide) hc
  rw [render_eq]
  split
  · exact hwrite _
  · exact List.forall_mem_append.2 ⟨List.forall_mem_append.2 ⟨hwrite _, by simp⟩, hwrite _⟩

theorem parse_render {a : Ipv6} (h : a.Fits) : parse a.render = .ok a := by
  have hpieces := h.piece
  have hzeros := drop_zeroRun a.pieces
  rw [render_eq]
  split
  · exact parse_write h.length h.piece
  · next hlong =>
    have hsplit : a.pieces = a.pieces.take (zeroRun a.pieces).1 ++ List.replicate (zeroRun a.pieces).2 0 ++
        a.pieces.drop ((zeroRun a.pieces).1 + (zeroRun a.pieces).2) := by
      rw [List.append_assoc, ← hzeros, List.take_append_drop]
    have hlength := congrArg List.length hsplit
    rw [h.length, List.length_append, List.length_append, List.length_replicate] at hlength
    rw [parse_write_gap (by omega) (fun p hp => hpieces p (List.mem_of_mem_take hp))
      (fun p hp => hpieces p (List.mem_of_mem_drop hp))]
    have hcount : count - ((a.pieces.take (zeroRun a.pieces).1).length +
        (a.pieces.drop ((zeroRun a.pieces).1 + (zeroRun a.pieces).2)).length) = (zeroRun a.pieces).2 := by
      omega
    rw [hcount, ← hsplit]

end QueryAudit.Url.Ipv6
