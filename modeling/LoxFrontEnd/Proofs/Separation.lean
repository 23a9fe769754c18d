import LoxFrontEnd.Proofs.Essence

/-!
# Separation

A blank ends whatever stands in front of it, but for strings, and for comments if it is no line
feed. So a text is cut at a line feed into parts that have nothing to do with each other
(`cut_append_lineFeed`), and a carriage return in front of the line feed makes no difference to
what the part means (`essence_append_return`).
-/
namespace LoxFrontEnd

theorem Text.Stops.append {rest : Text} {p : Char → Bool} (h : rest.Stops p) {c : Char}
    (hc : p c = false) (t : Text) : Text.Stops (rest ++ c :: t) p := by
  cases rest with
  | nil => simpa using hc
  | cons d ds => simpa using h

namespace Lexeme

theorem isBlank_of_mem_spelling {o : Operator} {c : Char} (h : c ∈ o.spelling) :
    isBlank c = false := by
  have hall : o.spelling.all (!isBlank ·) = true := by cases o <;> decide
  simpa using List.all_eq_true.mp hall c h

theorem ofSpelling?_append_blank (o : Operator) {b : Char} (hb : isBlank b) :
    Operator.ofSpelling? (o.spelling ++ [b]) = none := by
  rw [Option.eq_none_iff_forall_ne_some]
  intro o' ho'
  have hmem : b ∈ o'.spelling := by simp [Operator.spelling_of_ofSpelling? ho']
  rw [isBlank_of_mem_spelling hmem] at hb
  cases hb

/-- The lexemes of a text of blanks. -/
def blanks (t : Text) : List Lexeme := t.map fun c => ⟨[c], .blank⟩

theorem isCut_blanks_of_isBlank {t : Text} (h : ∀ c ∈ t, isBlank c) (rest : Text) :
    IsCut rest (blanks t) := by
  induction t with
  | nil => trivial
  | cons c cs ih =>
    obtain ⟨hc, hcs⟩ := List.forall_mem_cons.mp h
    exact ⟨.blank hc, ih hcs⟩

/-- A lexeme stays what it is when a blank follows behind the rest. -/
theorem Delimited.followed {l : Lexeme} {rest : Text} (h : Delimited l rest) {b : Char}
    (hb : isBlank b) (hstring : l.role ≠ .fault .unterminatedString)
    (hcomment : l.role = .comment → rest = [] → b = '\n') (t : Text) :
    Delimited l (rest ++ b :: t) := by
  have hdigit := LexicalClass.not_of_isBlank (p := isDigit) (by decide) hb
  have hpoint : b ≠ '.' := by
    rintro rfl
    exact absurd hb (by decide)
  cases h with
  | blank hc => exact .blank hc
  | comment hbody hrest =>
    refine .comment hbody ?_
    cases rest with
    | nil => simp [hcomment rfl rfl]
    | cons d ds => simpa using hrest
  | string hvalue => exact .string hvalue
  | unterminated => exact absurd rfl hstring
  | whole hdigits hrest hno =>
    refine .whole hdigits (hrest.append hdigit t) ?_
    rintro d ds hds
    cases rest with
    | nil => exact absurd (List.cons.inj hds).1 hpoint
    | cons e es =>
      obtain ⟨rfl, htail⟩ := List.cons.inj hds
      cases es with
      | nil =>
        rw [← (List.cons.inj htail).1]
        exact hdigit
      | cons f fs =>
        obtain ⟨rfl, -⟩ := List.cons.inj htail
        exact hno f fs rfl
  | decimal hdigits hdecimals hrest => exact .decimal hdigits hdecimals (hrest.append hdigit t)
  | word hc hcs hrest =>
    have hpart := LexicalClass.not_of_isBlank (p := isIdentifierPart) (by decide) hb
    exact .word hc hcs (hrest.append hpart t)
  | @operator o rest hlonger hslash =>
    cases rest with
    | nil =>
      refine .operator ?_ ?_
      · intro d hd
        obtain rfl : b = d := by simpa using hd
        exact ofSpelling?_append_blank o hb
      · intro _ hhead
        obtain rfl : b = '/' := by simpa using hhead
        exact absurd hb (by decide)
    | cons d ds => exact .operator hlonger hslash
  | unexpected hc => exact .unexpected hc

/-- A list of lexemes is not cut anywhere else when a blank follows behind the rest. -/
theorem IsCut.followed {rest : Text} {ls : List Lexeme} (h : IsCut rest ls) {b : Char}
    (hb : isBlank b) (hstring : ∀ l ∈ ls, l.role ≠ .fault .unterminatedString)
    (hcomment : (∃ l ∈ ls.getLast?, l.role = .comment) → rest = [] → b = '\n') (t : Text) :
    IsCut (rest ++ b :: t) ls := by
  induction ls with
  | nil => trivial
  | cons l ls ih =>
    obtain ⟨hfirst, hrest⟩ := h
    refine ⟨?_, ih hrest (fun m hm => hstring m (List.mem_cons_of_mem l hm)) ?_⟩
    · rw [← List.append_assoc]
      refine hfirst.followed hb (hstring l List.mem_cons_self) ?_ t
      intro hrole hnil
      obtain ⟨hls, hrest'⟩ := List.append_eq_nil_iff.mp hnil
      cases ls with
      | nil => exact hcomment ⟨l, rfl, hrole⟩ hrest'
      | cons m ms => exact absurd (List.append_eq_nil_iff.mp hls).1 hrest.1.text_ne_nil
    · rintro ⟨m, hm, hrole⟩
      refine hcomment ⟨m, ?_, hrole⟩
      rw [Option.mem_def] at hm ⊢
      rw [List.getLast?_cons, hm]
      rfl

/-- A line feed separates what is in front of it from what is behind it. -/
theorem cut_append_lineFeed {s : Text} (hs : IsClosed s) (t : Text) :
    cut (s ++ '\n' :: t) = cut s ++ ⟨['\n'], .blank⟩ :: cut t := by
  rw [cut_eq_iff]
  constructor
  · refine isCut_append.mpr ⟨?_, .blank (by decide), isCut_cut t⟩
    simpa [join_cut] using (isCut_cut s).followed (by decide) hs (fun _ _ => rfl) t
  · simp [join_cut]

theorem essence_append_lineFeed {s : Text} (hs : IsClosed s) (t : Text) :
    essence (s ++ '\n' :: t) = essence s ++ essence t := by
  simp [essence, cut_append_lineFeed hs, isTrivia]

/-- A carriage return at the end is a blank or a part of a comment. -/
theorem essence_append_return {s : Text} (hs : IsClosed s) : essence (s ++ ['\r']) = essence s := by
  have hcut := isCut_cut s
  have hjoin := join_cut s
  by_cases hlast : ∃ l ∈ (cut s).getLast?, l.role = .comment
  · obtain ⟨⟨c, role⟩, hl, rfl⟩ := hlast
    obtain ⟨ls, hls⟩ := List.getLast?_eq_some_iff.mp hl
    rw [hls] at hcut hjoin
    obtain ⟨hfirst, hcomment, -⟩ := isCut_append.mp hcut
    obtain ⟨⟨body, rfl, hbody⟩, -⟩ := hcomment.means
    have hlonger : cut (s ++ ['\r']) = ls ++ [⟨'/' :: '/' :: (body ++ ['\r']), .comment⟩] := by
      rw [cut_eq_iff]
      constructor
      · refine isCut_append.mpr ⟨?_, .comment (by simpa using hbody) (Text.stops_nil _), trivial⟩
        have hclosed : ∀ l ∈ ls, l.role ≠ .fault .unterminatedString := fun l hl =>
          hs l (hls ▸ List.mem_append_left _ hl)
        simpa using hfirst.followed (show isBlank '\r' by decide) hclosed (by simp) []
      · simp [← hjoin]
    rw [essence, hlonger, essence, hls]
    simp [isTrivia]
  · have hlonger : cut (s ++ ['\r']) = cut s ++ [⟨['\r'], .blank⟩] := by
      rw [cut_eq_iff]
      constructor
      · refine isCut_append.mpr ⟨?_, .blank (by decide), trivial⟩
        simpa using hcut.followed (show isBlank '\r' by decide) hs (fun h => absurd h hlast) []
      · simp [hjoin]
    rw [essence, hlonger]
    simp [essence, isTrivia]

end Lexeme

end LoxFrontEnd
