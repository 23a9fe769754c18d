import LoxFrontEnd.Proofs.Tiling

/-!
# Bounded lookahead

That a lexeme ends where it does is decided two characters behind it (`Delimited.of_take_eq`); a
point after digits needs the second one. So sources with the same first `k` characters are scanned
alike up to the last two of these (`lookahead_bounded`), whatever comes further behind.
-/
namespace LoxFrontEnd

namespace Lexeme

/-- Two characters behind a lexeme decide that it ends there. Only the string that is left open is
decided by the end of the source. -/
theorem Delimited.of_take_eq {l : Lexeme} {rest rest' : Text} (h : Delimited l rest)
    (hstring : l.role ≠ .fault .unterminatedString) (htake : rest.take 2 = rest'.take 2) :
    Delimited l rest' := by
  have hhead : rest'.head? = rest.head? := by
    simpa [List.head?_take] using (congrArg List.head? htake).symm
  have hstops (p : Char → Bool) (hrest : rest.Stops p) : rest'.Stops p := by
    rwa [Text.Stops, hhead]
  cases h with
  | blank hc => exact .blank hc
  | comment hbody hrest => exact .comment hbody (hstops _ hrest)
  | string hvalue => exact .string hvalue
  | unterminated => exact absurd rfl hstring
  | whole hdigits hrest hpoint =>
    refine .whole hdigits (hstops _ hrest) ?_
    rintro d ds rfl
    obtain ⟨es, rfl⟩ : ∃ es, rest = '.' :: d :: es := by
      obtain - | ⟨c, - | ⟨e, es⟩⟩ := rest
      · simp at htake
      · simp at htake
      · exact ⟨es, by simp_all⟩
    exact hpoint d es rfl
  | decimal hdigits hdecimals hrest => exact .decimal hdigits hdecimals (hstops _ hrest)
  | word hc hcs hrest => exact .word hc hcs (hstops _ hrest)
  | operator hlonger hcomment =>
    rw [← hhead] at hlonger hcomment
    exact .operator hlonger hcomment
  | unexpected hc => exact .unexpected hc

/-- If two texts agree up to two characters behind the first lexeme of the one, the other begins
with the same lexeme. -/
theorem Delimited.eq_of_take_eq {l m : Lexeme} {rest rest' : Text} {k : Nat}
    (hl : Delimited l rest) (hm : Delimited m rest') (hk : l.text.length + 2 ≤ k)
    (hlength : k ≤ (l.text ++ rest).length)
    (htake : (l.text ++ rest).take k = (m.text ++ rest').take k) : l = m := by
  have hstring : l.role ≠ .fault .unterminatedString := by
    intro hrole
    have hmeans := hl.means
    rw [hrole] at hmeans
    obtain ⟨-, rfl⟩ := hmeans
    rw [List.append_nil] at hlength
    omega
  -- The other text is this lexeme and something behind it.
  have hsplit : m.text ++ rest' = l.text ++ (m.text ++ rest').drop l.text.length := by
    have hfront := congrArg (List.take l.text.length) htake
    rw [List.take_take, List.take_take, Nat.min_eq_left (by omega), List.take_left] at hfront
    calc m.text ++ rest'
        = (m.text ++ rest').take l.text.length ++ (m.text ++ rest').drop l.text.length :=
          (List.take_append_drop _ _).symm
      _ = l.text ++ (m.text ++ rest').drop l.text.length := by rw [← hfront]
  have hbehind : rest.take 2 = ((m.text ++ rest').drop l.text.length).take 2 := by
    have hdrop := congrArg (fun t => (t.drop l.text.length).take 2) htake
    simp only [List.drop_take, List.take_take, List.drop_left] at hdrop
    rwa [Nat.min_eq_left (by omega)] at hdrop
  obtain ⟨c, cs, hcons⟩ := List.exists_cons_of_ne_nil
    (List.append_ne_nil_of_left_ne_nil hm.text_ne_nil rest')
  have hfirst := (hl.of_take_eq hstring hbehind).takeFirst_eq (hsplit.symm.trans hcons)
  rw [hm.takeFirst_eq hcons] at hfirst
  exact (Prod.mk.inj hfirst).1.symm

end Lexeme

namespace Element

theorem start_le_of_mem_place {start line : Nat} {ls : List Lexeme} {e : Element}
    (h : e ∈ place start line ls) : start ≤ e.start := by
  obtain ⟨before, -, -, hstart, -⟩ := exists_of_mem_place h
  omega

/-- Nothing ends in front of the end of the first lexeme. -/
theorem stop_le_of_mem_place {start line : Nat} {l : Lexeme} {ls : List Lexeme} {e : Element}
    (h : e ∈ place start line (l :: ls)) : start + l.text.length ≤ e.stop := by
  obtain rfl | h := List.mem_cons.mp h
  · rfl
  · exact (start_le_of_mem_place h).trans (Nat.le_add_right _ _)

/-- Texts with the same first `k` characters have the same lexemes in front, and what is behind
those in either text ends later than two characters before the end of what they share. -/
theorem exists_front {ls ms : List Lexeme} (hls : Lexeme.IsCut [] ls) (hms : Lexeme.IsCut [] ms)
    {k : Nat} (hs : k ≤ (ls.flatMap Lexeme.text).length) (ht : k ≤ (ms.flatMap Lexeme.text).length)
    (h : (ls.flatMap Lexeme.text).take k = (ms.flatMap Lexeme.text).take k) (start line : Nat) :
    ∃ front behind behind', place start line ls = front ++ behind ∧
      place start line ms = front ++ behind' ∧
      ∀ e ∈ behind ++ behind', start + k < e.stop + 2 := by
  induction ls generalizing ms k start line with
  | nil =>
    obtain rfl : k = 0 := by simpa using hs
    refine ⟨[], [], place start line ms, rfl, rfl, fun e he => ?_⟩
    have hstart := start_le_of_mem_place he
    have hstop : e.start ≤ e.stop := Nat.le_add_right _ _
    omega
  | cons l ls ih =>
    cases ms with
    | nil =>
      obtain rfl : k = 0 := by simpa using ht
      refine ⟨[], place start line (l :: ls), [], rfl, rfl, fun e he => ?_⟩
      rw [List.append_nil] at he
      have hstart := start_le_of_mem_place he
      have hstop : e.start ≤ e.stop := Nat.le_add_right _ _
      omega
    | cons m ms =>
      obtain ⟨hl, hls⟩ := hls
      obtain ⟨hm, hms⟩ := hms
      rw [List.append_nil] at hl hm
      rw [List.flatMap_cons] at hs ht
      rw [List.flatMap_cons, List.flatMap_cons] at h
      by_cases hk : l.text.length + 2 ≤ k
      · obtain rfl := hl.eq_of_take_eq hm hk hs h
        have hbehind := congrArg (List.drop l.text.length) h
        simp only [List.drop_take, List.drop_left] at hbehind
        rw [List.length_append] at hs ht
        obtain ⟨front, behind, behind', hfront, hfront', hlater⟩ := ih hls hms
          (k := k - l.text.length) (by omega) (by omega) hbehind (start + l.text.length)
          (line + l.text.lineFeeds)
        refine ⟨⟨l, start, line + l.text.lineFeeds⟩ :: front, behind, behind', ?_, ?_, ?_⟩
        · rw [place, hfront, List.cons_append]
        · rw [place, hfront', List.cons_append]
        · intro e he
          have := hlater e he
          omega
      · have hk' : ¬m.text.length + 2 ≤ k := by
          intro hm'
          obtain rfl := hm.eq_of_take_eq hl hm' ht h.symm
          exact hk hm'
        refine ⟨[], place start line (l :: ls), place start line (m :: ms), rfl, rfl, ?_⟩
        intro e he
        obtain he | he := List.mem_append.mp he
        · have := stop_le_of_mem_place he
          omega
        · have := stop_le_of_mem_place he
          omega

end Element

/-- Sources with the same first `k` characters have the same segments in front, with the same
tokens and diagnostics at the same places. All that ends two characters before the end of what
they share, or earlier, is among these segments. -/
theorem lookahead_bounded {s t : Text} {k : Nat} (hs : k ≤ s.length) (ht : k ≤ t.length)
    (h : s.take k = t.take k) :
    ∃ front behind behind' : List Segment,
      (scan s).map Element.segment = front ++ behind ∧ IsTiling s (front ++ behind) ∧
      (scan t).map Element.segment = front ++ behind' ∧ IsTiling t (front ++ behind') ∧
      ∀ x ∈ behind ++ behind', k < x.span.stop + 2 := by
  have hfront := Element.exists_front (Lexeme.isCut_cut s) (Lexeme.isCut_cut t) (k := k)
  simp only [Lexeme.join_cut] at hfront
  obtain ⟨front, behind, behind', hscan, hscan', hlater⟩ := hfront hs ht h 0 1
  have hsegments : (scan s).map Element.segment =
      front.map Element.segment ++ behind.map Element.segment := by
    rw [scan, hscan, List.map_append]
  have hsegments' : (scan t).map Element.segment =
      front.map Element.segment ++ behind'.map Element.segment := by
    rw [scan, hscan', List.map_append]
  refine ⟨front.map Element.segment, behind.map Element.segment, behind'.map Element.segment,
    hsegments, ?_, hsegments', ?_, fun x hx => ?_⟩
  · rw [← hsegments]
    exact isTiling_scan s
  · rw [← hsegments']
    exact isTiling_scan t
  · rw [← List.map_append] at hx
    obtain ⟨e, he, rfl⟩ := List.mem_map.mp hx
    have hlate := hlater e he
    rwa [Nat.zero_add] at hlate

/-- What is shared ends with a point. The operator in front is decided by it, but the digits are
not: it takes a second character behind them to tell where the number ends. -/
theorem lookahead_bounded_point :
    5 ≤ List.length ['!', '=', '1', '2', '.', '3'] ∧
    5 ≤ List.length ['!', '=', '1', '2', '.', 'x'] ∧
    List.take 5 ['!', '=', '1', '2', '.', '3'] = List.take 5 ['!', '=', '1', '2', '.', 'x'] ∧
    (scan ['!', '=', '1', '2', '.', '3']).map Element.span = [⟨0, 2⟩, ⟨2, 6⟩] ∧
    (scan ['!', '=', '1', '2', '.', 'x']).map Element.span = [⟨0, 2⟩, ⟨2, 4⟩, ⟨4, 5⟩, ⟨5, 6⟩] ∧
    ((scan ['!', '=', '1', '2', '.', 'x']).map Element.segment).head? =
      some ⟨⟨0, 2⟩, .token ⟨.operator .bangEqual, ['!', '='], none, 1⟩⟩ := by
  have hdigits : IsDigits ['1', '2'] := ⟨by simp, List.all_eq_true.mp rfl⟩
  have hcut : Lexeme.cut ['!', '=', '1', '2', '.', '3'] =
      [⟨['!', '='], .token (.operator .bangEqual) none⟩,
        ⟨['1', '2', '.', '3'], Lexeme.numberRole ['1', '2', '.', '3']⟩] :=
    Lexeme.cut_eq_iff.mpr ⟨⟨.operator (o := .bangEqual) (by simp; decide) (by simp),
      .decimal hdigits ⟨by simp, List.all_eq_true.mp rfl⟩ (Text.stops_nil _), trivial⟩, rfl⟩
  have hcut' : Lexeme.cut ['!', '=', '1', '2', '.', 'x'] =
      [⟨['!', '='], .token (.operator .bangEqual) none⟩,
        ⟨['1', '2'], Lexeme.numberRole ['1', '2']⟩, ⟨['.'], .token (.operator .dot) none⟩,
        ⟨['x'], .token (Lexeme.wordKind ['x']) none⟩] :=
    Lexeme.cut_eq_iff.mpr ⟨⟨.operator (o := .bangEqual) (by simp; decide) (by simp),
      .whole hdigits (by simp; decide) (by simp; decide),
      .operator (o := .dot) (by simp; decide) (by simp),
      .word (by decide) (by simp) (Text.stops_nil _), trivial⟩, rfl⟩
  have hs : 5 ≤ List.length ['!', '=', '1', '2', '.', '3'] := by decide
  have ht : 5 ≤ List.length ['!', '=', '1', '2', '.', 'x'] := by decide
  have htake : List.take 5 ['!', '=', '1', '2', '.', '3'] =
      List.take 5 ['!', '=', '1', '2', '.', 'x'] := rfl
  refine ⟨hs, ht, htake, ?_, ?_, ?_⟩
  · rw [scan, hcut]
    rfl
  · rw [scan, hcut']
    rfl
  · obtain ⟨front, behind, behind', hsegments, -, hsegments', -, hlater⟩ :=
      lookahead_bounded hs ht htake
    rw [scan, hcut] at hsegments
    cases front with
    | nil =>
      obtain rfl := hsegments
      have hfirst := hlater _ (List.mem_append_left behind' List.mem_cons_self)
      exact absurd hfirst (by decide)
    | cons x front =>
      rw [hsegments', List.cons_append, List.head?_cons, ← (List.cons.inj hsegments).1]
      rfl

end LoxFrontEnd
