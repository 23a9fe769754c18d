import LoxFrontEnd.Arguments.Messages
import LoxFrontEnd.Proofs.Delimited

/-!
# Order of arguments

Scripts and settings can stand in any order on a command line. A reader always knows what it comes
to once all that is pending is settled (`ArgumentReader.ComesTo`), and every script or setting
changes that as it would anywhere else (`takeAll_piece`). So what is asked for depends on the
scripts in their order and on the values of the settings, not on where the settings stand
(`readArguments_commandLine`).
-/
namespace LoxFrontEnd

/-- A value for a setting. -/
inductive Choice
  | format (value : Format)
  | color (value : ColorChoice)
  deriving DecidableEq, Repr

namespace Choice

def setting : Choice → Setting
  | format _ => .format
  | color _ => .color

/-- How the value is written. -/
def value : Choice → Text
  | format value => value.name
  | color value => value.name

/-- The arguments for a choice: the value may be joined to the option by an equals sign. -/
def written (c : Choice) (joined : Bool) : List Text :=
  let option := (Parameter.setting c.setting).dashed
  if joined then [option ++ '=' :: c.value] else [option, c.value]

end Choice

/-- What a command line in front of `--` is put together from. -/
inductive Piece
  | script (path : Text)
  | choice (c : Choice) (joined : Bool)
  deriving DecidableEq, Repr

namespace Piece

def written : Piece → List Text
  | script path => [path]
  | choice c joined => c.written joined

def script? : Piece → Option Text
  | script path => some path
  | choice _ _ => none

def format? : Piece → Option Format
  | choice (.format value) _ => some value
  | _ => none

def color? : Piece → Option ColorChoice
  | choice (.color value) _ => some value
  | _ => none

end Piece

/-- A text that is taken as a script in front of `--`. -/
def IsPositional (path : Text) : Prop := path ≠ [] ∧ (path.head? = some '-' → path = ['-'])

/-- A command line of pieces, and possibly `--` with scripts behind it. -/
def commandLine (pieces : List Piece) (behind : Option (List Text)) : List Text :=
  pieces.flatMap Piece.written ++ behind.elim [] (['-', '-'] :: ·)

/-- What has been asked for so far. -/
structure Request where
  scripts : List Text
  format : Option Format
  color : Option ColorChoice

namespace Request

def choose (q : Request) : Choice → Request
  | .format value => { q with format := some value }
  | .color value => { q with color := some value }

def gives (q : Request) : Setting → Bool
  | .format => q.format.isSome
  | .color => q.color.isSome

/-- A script must not be taken for an option, and no setting is given twice. -/
def Allows (q : Request) : Piece → Prop
  | .script path => IsPositional path
  | .choice c _ => q.gives c.setting = false

def add (q : Request) : Piece → Request
  | .script path => { q with scripts := q.scripts ++ [path] }
  | .choice c _ => q.choose c

/-- The scripts of a request and of the pieces after it. -/
def scriptsWith (q : Request) (pieces : List Piece) : List Text :=
  q.scripts ++ pieces.filterMap Piece.script?

def formatsWith (q : Request) (pieces : List Piece) : List Format :=
  q.format.toList ++ pieces.filterMap Piece.format?

def colorsWith (q : Request) (pieces : List Piece) : List ColorChoice :=
  q.color.toList ++ pieces.filterMap Piece.color?

theorem with_nil (q : Request) :
    ⟨q.scriptsWith [], (q.formatsWith []).head?, (q.colorsWith []).head?⟩ = q := by
  obtain ⟨scripts, format, color⟩ := q
  cases format <;> cases color <;> simp [scriptsWith, formatsWith, colorsWith]

/-- A piece that is allowed can be added to the request in front of it. -/
theorem add_with {q : Request} {piece : Piece} (h : q.Allows piece) (pieces : List Piece) :
    (q.add piece).scriptsWith pieces = q.scriptsWith (piece :: pieces) ∧
    (q.add piece).formatsWith pieces = q.formatsWith (piece :: pieces) ∧
    (q.add piece).colorsWith pieces = q.colorsWith (piece :: pieces) := by
  cases piece with
  | script path =>
    refine ⟨?_, rfl, rfl⟩
    simp [add, scriptsWith, Piece.script?]
  | choice c joined =>
    cases c with
    | format value =>
      have hnone : q.format = none := by simpa [Allows, gives, Choice.setting] using h
      refine ⟨rfl, ?_, rfl⟩
      simp [add, choose, formatsWith, Piece.format?, hnone]
    | color value =>
      have hnone : q.color = none := by simpa [Allows, gives, Choice.setting] using h
      refine ⟨rfl, rfl, ?_⟩
      simp [add, choose, colorsWith, Piece.color?, hnone]

/-- A piece is allowed if it is a script that can be told from an option, or if there is no more
than one value for each setting. -/
theorem allows_of_le {q : Request} {piece : Piece} {pieces : List Piece}
    (hscripts : ∀ path ∈ q.scriptsWith (piece :: pieces), IsPositional path)
    (hformats : (q.formatsWith (piece :: pieces)).length ≤ 1)
    (hcolors : (q.colorsWith (piece :: pieces)).length ≤ 1) : q.Allows piece := by
  cases piece with
  | script path => exact hscripts path (by simp [scriptsWith, Piece.script?])
  | choice c joined =>
    cases c with
    | format value =>
      cases hq : q.format with
      | none => simp [Allows, gives, Choice.setting, hq]
      | some _ => simp [formatsWith, hq, Piece.format?] at hformats
    | color value =>
      cases hq : q.color with
      | none => simp [Allows, gives, Choice.setting, hq]
      | some _ => simp [colorsWith, hq, Piece.color?] at hcolors

theorem gives_choose (q : Request) (c : Choice) (s : Setting) :
    (q.choose c).gives s = (q.gives s || decide (s = c.setting)) := by
  cases c <;> cases s <;> simp [choose, gives, Choice.setting]

end Request

namespace ArgumentReader

/-- What has been settled. -/
def request (r : ArgumentReader) : Request := ⟨r.scripts, r.format, r.color⟩

/-- Nothing is pending, and the request is what has been settled. -/
structure Holds (r : ArgumentReader) (q : Request) : Prop where
  pending : r.pending = .nothing
  request_eq : r.request = q
  gives_of_given : ∀ s, .setting s ∈ r.given → q.gives s

/-- The request is what will have been settled once all that is pending is. -/
def ComesTo (r : ArgumentReader) (q : Request) : Prop := ∃ r', r.settle = .ok r' ∧ r'.Holds q

@[simp] theorem request_give (r : ArgumentReader) (p : Parameter) :
    (r.give p).request = r.request := by
  unfold give
  split <;> rfl

@[simp] theorem pending_give (r : ArgumentReader) (p : Parameter) :
    (r.give p).pending = r.pending := by
  unfold give
  split <;> rfl

theorem mem_given_give {r : ArgumentReader} {p p' : Parameter} (h : p' ∈ (r.give p).given) :
    p' ∈ r.given ∨ p' = p := by
  unfold give at h
  split at h
  · exact .inl h
  · simpa using h

/-- A value for the setting it belongs to is never refused. -/
theorem exists_assign (r : ArgumentReader) (c : Choice) :
    ∃ r', r.assign c.setting c.value = .ok r' ∧ r'.pending = r.pending ∧ r'.given = r.given ∧
      r'.request = r.request.choose c := by
  cases c with
  | format value => cases value <;> exact ⟨_, rfl, rfl, rfl, rfl⟩
  | color value => cases value <;> exact ⟨_, rfl, rfl, rfl, rfl⟩

variable {r : ArgumentReader} {q : Request}

theorem comesTo_initial : initial.ComesTo ⟨[], none, none⟩ :=
  ⟨initial, rfl, rfl, rfl, by simp [initial]⟩

theorem settled_of_settle {r' : ArgumentReader} (h : r.settle = .ok r') : r.settled = .ok r' := by
  rw [settled, h]
  rfl

theorem Holds.comesTo (h : r.Holds q) : r.ComesTo q := by
  refine ⟨r, ?_, h⟩
  unfold settle
  rw [h.pending]

/-- Scripts that are pending are settled, as none of them is empty. -/
theorem Holds.comesTo_scripts (h : r.Holds q) {paths : List Text} (hpaths : [] ∉ paths) :
    ComesTo { r with pending := .scripts paths } { q with scripts := q.scripts ++ paths } := by
  have hcleared : { r with pending := .nothing } = r := by rw [← h.pending]
  have hrequest : (r.give .script).request = q := by rw [request_give, h.request_eq]
  refine ⟨{ r.give .script with scripts := (r.give .script).scripts ++ paths }, ?_, ?_, ?_, ?_⟩
  · simp only [settle, if_neg hpaths, hcleared]
  · exact (pending_give r .script).trans h.pending
  · rw [← hrequest]
    rfl
  · intro s hs
    obtain hs | hs := mem_given_give hs
    · exact h.gives_of_given s hs
    · cases hs

/-- A value that is pending is settled, as its setting has not been given before. -/
theorem Holds.comesTo_choice (h : r.Holds q) {c : Choice} (hnew : q.gives c.setting = false) :
    ComesTo { r with pending := .value c.setting (some c.value) } (q.choose c) := by
  have hfirst : .setting c.setting ∉ r.given := by
    intro hmem
    rw [h.gives_of_given _ hmem] at hnew
    cases hnew
  have hcleared : { r with pending := .nothing } = r := by rw [← h.pending]
  obtain ⟨r', hassign, hpending, hgiven, hrequest⟩ := (r.give (.setting c.setting)).exists_assign c
  refine ⟨r', ?_, ?_, ?_, ?_⟩
  · simp only [settle, if_neg hfirst, hcleared, hassign]
    rfl
  · rw [hpending, pending_give, h.pending]
  · rw [hrequest, request_give, h.request_eq]
  · intro s hs
    rw [hgiven] at hs
    rw [Request.gives_choose]
    obtain hs | hs := mem_given_give hs
    · simp [h.gives_of_given s hs]
    · cases hs
      simp

theorem settle_scripts_append {r' : ArgumentReader} {paths : List Text} {path : Text}
    (hpath : path ≠ []) (hpending : r.pending = .scripts paths) (h : r.settle = .ok r') :
    settle { r with pending := .scripts (paths ++ [path]) } =
      .ok { r' with scripts := r'.scripts ++ [path] } := by
  simp only [settle, hpending] at h
  split_ifs at h with hempty
  have hempty' : [] ∉ paths ++ [path] := by simp [hempty, hpath.symm]
  cases h
  simp only [settle, if_neg hempty', List.append_assoc]

/-- A script is taken at any time. -/
theorem ComesTo.takeScript (h : r.ComesTo q) {path : Text} (hpath : path ≠ []) :
    ∃ r', r.takeScript path = .ok r' ∧
      r'.ComesTo { q with scripts := q.scripts ++ [path] } := by
  obtain ⟨settled, hsettle, hholds⟩ := h
  have hone : [] ∉ [path] := by simpa using hpath.symm
  have hfirst : ∃ r', (r.settled.map fun r => { r with pending := .scripts [path] }) = .ok r' ∧
      r'.ComesTo { q with scripts := q.scripts ++ [path] } :=
    ⟨_, by rw [settled_of_settle hsettle]; rfl, hholds.comesTo_scripts hone⟩
  unfold ArgumentReader.takeScript
  cases hpending : r.pending with
  | nothing => exact hfirst
  | value s value => exact hfirst
  | scripts paths =>
    refine ⟨_, rfl, _, settle_scripts_append hpath hpending hsettle, hholds.pending, ?_,
      hholds.gives_of_given⟩
    rw [← hholds.request_eq]
    rfl

theorem ComesTo.takeScripts (h : r.ComesTo q) {paths : List Text} (hpaths : [] ∉ paths) :
    ∃ r', paths.foldlM ArgumentReader.takeScript r = .ok r' ∧
      r'.ComesTo { q with scripts := q.scripts ++ paths } := by
  induction paths generalizing r q with
  | nil => exact ⟨r, rfl, by simpa using h⟩
  | cons path paths ih =>
    obtain ⟨hpath, hpaths⟩ := not_or.mp (mt List.mem_cons.mpr hpaths)
    obtain ⟨r₁, htake, h₁⟩ := h.takeScript (Ne.symm hpath)
    obtain ⟨r₂, hrest, h₂⟩ := ih h₁ hpaths
    refine ⟨r₂, ?_, by simpa using h₂⟩
    rw [List.foldlM_cons, htake]
    exact hrest

/-- An argument in front of `--` is taken by itself. -/
theorem takeAll_cons {argument : Text} (hargument : argument ≠ ['-', '-']) {r' : ArgumentReader}
    (h : r.take argument = .ok r') (rest : List Text) :
    r.takeAll (argument :: rest) = r'.takeAll rest := by
  rw [takeAll, if_neg hargument, h]
  rfl

theorem ComesTo.pending_ne (h : r.ComesTo q) (s : Setting) : r.pending ≠ .value s none := by
  intro hpending
  obtain ⟨r', hsettle, -⟩ := h
  simp [settle, hpending] at hsettle

theorem take_of_isPositional {path : Text} (hpath : IsPositional path)
    (hpending : ∀ s, r.pending ≠ .value s none) : r.take path = r.takeScript path := by
  have hdash := hpath.2
  unfold take
  split
  · simp at hdash
  · simp at hdash
  · split
    · rename_i s heq
      exact absurd heq (hpending s)
    · rfl

theorem take_option (s : Setting) : r.take (Parameter.setting s).dashed =
    r.settled.map fun r => { r with pending := .value s none } := by
  cases s <;> rfl

theorem take_joined (s : Setting) (value : Text) :
    r.take ((Parameter.setting s).dashed ++ '=' :: value) =
      r.settled.bind fun r => settled { r with pending := .value s (some value) } := by
  cases s <;> rfl

theorem take_value (r : ArgumentReader) (c : Choice) :
    take { r with pending := .value c.setting none } c.value =
      .ok { r with pending := .value c.setting (some c.value) } := by
  cases c with
  | format value => cases value <;> rfl
  | color value => cases value <;> rfl

theorem dashed_ne (s : Setting) (t : Text) : (Parameter.setting s).dashed ++ t ≠ ['-', '-'] := by
  intro h
  cases s <;> cases h

theorem value_ne (c : Choice) : c.value ≠ ['-', '-'] := by
  cases c with
  | format value => cases value <;> decide
  | color value => cases value <;> decide

/-- A piece adds to the request what it would add anywhere else. -/
theorem ComesTo.takeAll_piece (h : r.ComesTo q) {piece : Piece} (hallowed : q.Allows piece) :
    ∃ r' : ArgumentReader, (∀ rest, r.takeAll (piece.written ++ rest) = r'.takeAll rest) ∧
      r'.ComesTo (q.add piece) := by
  cases piece with
  | script path =>
    obtain ⟨r', htake, h'⟩ := h.takeScript hallowed.1
    have hne : path ≠ ['-', '-'] := by
      rintro rfl
      exact absurd (hallowed.2 rfl) (by decide)
    rw [← take_of_isPositional hallowed h.pending_ne] at htake
    exact ⟨r', takeAll_cons hne htake, h'⟩
  | choice c joined =>
    obtain ⟨r₁, hsettle, h₁⟩ := h
    have hsettled := settled_of_settle hsettle
    cases joined with
    | true =>
      obtain ⟨r₂, hsettle₂, h₂⟩ := h₁.comesTo_choice hallowed
      have htake : r.take ((Parameter.setting c.setting).dashed ++ '=' :: c.value) = .ok r₂ := by
        rw [take_joined, hsettled]
        exact settled_of_settle hsettle₂
      exact ⟨r₂, takeAll_cons (dashed_ne _ _) htake, h₂.comesTo⟩
    | false =>
      have htake : r.take (Parameter.setting c.setting).dashed =
          .ok { r₁ with pending := .value c.setting none } := by
        rw [take_option, hsettled]
        rfl
      refine ⟨_, fun rest => ?_, h₁.comesTo_choice hallowed⟩
      have hoption := dashed_ne c.setting []
      rw [List.append_nil] at hoption
      exact (takeAll_cons hoption htake _).trans (takeAll_cons (value_ne c) (take_value r₁ c) rest)

/-- Pieces are all taken, if their scripts can be told from options and there is no more than one
value for each setting. -/
theorem ComesTo.takeAll_pieces (h : r.ComesTo q) {pieces : List Piece}
    (hscripts : ∀ path ∈ q.scriptsWith pieces, IsPositional path)
    (hformats : (q.formatsWith pieces).length ≤ 1) (hcolors : (q.colorsWith pieces).length ≤ 1) :
    ∃ r' : ArgumentReader,
      (∀ rest, r.takeAll (pieces.flatMap Piece.written ++ rest) = r'.takeAll rest) ∧
      r'.ComesTo ⟨q.scriptsWith pieces, (q.formatsWith pieces).head?,
        (q.colorsWith pieces).head?⟩ := by
  induction pieces generalizing r q with
  | nil => exact ⟨r, fun _ => rfl, by rwa [q.with_nil]⟩
  | cons piece pieces ih =>
    have hallowed := Request.allows_of_le hscripts hformats hcolors
    obtain ⟨r₁, hpiece, h₁⟩ := h.takeAll_piece hallowed
    obtain ⟨hscripts', hformats', hcolors'⟩ := Request.add_with hallowed pieces
    rw [← hscripts'] at hscripts ⊢
    rw [← hformats'] at hformats ⊢
    rw [← hcolors'] at hcolors ⊢
    obtain ⟨r₂, hpieces, h₂⟩ := ih h₁ hscripts hformats hcolors
    refine ⟨r₂, fun rest => ?_, h₂⟩
    rw [List.flatMap_cons, List.append_assoc, hpiece, hpieces]

/-- At the end, and behind `--`, only scripts can still come. -/
theorem ComesTo.takeAll_behind (h : r.ComesTo q) {behind : Option (List Text)}
    (hbehind : [] ∉ behind.getD []) :
    ∃ r', r.takeAll (behind.elim [] (['-', '-'] :: ·)) = .ok r' ∧
      r'.Holds { q with scripts := q.scripts ++ behind.getD [] } := by
  cases behind with
  | none =>
    obtain ⟨r', hsettle, hholds⟩ := h
    exact ⟨r', settled_of_settle hsettle, by simpa using hholds⟩
  | some paths =>
    obtain ⟨r₁, htake, r', hsettle, hholds⟩ := h.takeScripts (show [] ∉ paths from hbehind)
    refine ⟨r', ?_, hholds⟩
    simp only [Option.elim_some, takeAll, if_true, htake]
    exact settled_of_settle hsettle

end ArgumentReader

/-- The environment gives the format if no argument does. -/
theorem readArguments_of_takeAll {arguments : List Text} {r : ArgumentReader}
    (h : ArgumentReader.initial.takeAll arguments = .ok r) (environment : Option Format) :
    readArguments arguments (environment.map Format.name) =
      .ok ⟨r.scripts, (r.format.or environment).getD .plain, r.color.getD .auto⟩ := by
  obtain ⟨scripts, format, color, given, pending⟩ := r
  unfold readArguments
  rw [h]
  cases format with
  | some value => rfl
  | none =>
    cases environment with
    | none => rfl
    | some value => cases value <;> rfl

/-- Scripts and settings ask for the same in any order: the scripts count in the order in which they
stand, those behind `--` after the others and whatever they look like. The format is the one given,
or else that of the environment. -/
theorem readArguments_commandLine (pieces : List Piece) (behind : Option (List Text))
    (environment : Option Format)
    (hscripts : ∀ path ∈ pieces.filterMap Piece.script?, IsPositional path)
    (hformats : (pieces.filterMap Piece.format?).length ≤ 1)
    (hcolors : (pieces.filterMap Piece.color?).length ≤ 1)
    (hbehind : [] ∉ behind.getD []) :
    ∃ o, readArguments (commandLine pieces behind) (environment.map Format.name) = .ok o ∧
      o.scripts = pieces.filterMap Piece.script? ++ behind.getD [] ∧
      o.format = ((pieces.filterMap Piece.format?).head?.or environment).getD .plain ∧
      o.color = (pieces.filterMap Piece.color?).head?.getD .auto ∧
      (o.invocation = .prompt ↔ o.scripts = []) ∧
      (∀ path, o.invocation = .script path ↔ o.scripts = [path]) ∧
      (o.invocation = .usage ↔ 2 ≤ o.scripts.length) := by
  obtain ⟨r₁, hpieces, h₁⟩ :=
    ArgumentReader.comesTo_initial.takeAll_pieces hscripts hformats hcolors
  obtain ⟨r₂, hrest, h₂⟩ := h₁.takeAll_behind hbehind
  have hread : ArgumentReader.initial.takeAll (commandLine pieces behind) = .ok r₂ :=
    (hpieces _).trans hrest
  have hscripts₂ : r₂.scripts = _ := congrArg Request.scripts h₂.request_eq
  have hformat₂ : r₂.format = _ := congrArg Request.format h₂.request_eq
  have hcolor₂ : r₂.color = _ := congrArg Request.color h₂.request_eq
  refine ⟨_, readArguments_of_takeAll hread environment, hscripts₂, by rw [hformat₂]; rfl,
    by rw [hcolor₂]; rfl, Options.invocation_eq_prompt_iff _, Options.invocation_eq_script_iff _,
    Options.invocation_eq_usage_iff _⟩

/-- Settings behind and between scripts, and a script behind `--` that looks like a setting. -/
theorem readArguments_commandLine_mixed :
    let pieces : List Piece := [.script ['a'], .choice (.format .pretty) false, .script ['-'],
      .choice (.color .never) true]
    let behind : List Text := ["--color=auto".toList, ['-', '-']]
    ∃ o, readArguments (commandLine pieces (some behind)) (some Format.plain.name) = .ok o ∧
      o.scripts = ['a'] :: ['-'] :: behind ∧ o.format = .pretty ∧ o.color = .never ∧
      o.invocation = .usage := by
  intro pieces behind
  obtain ⟨o, hread, hscripts, hformat, hcolor, -, -, husage⟩ :=
    readArguments_commandLine pieces (some behind) (some .plain)
      (by simp [pieces, Piece.script?, IsPositional]) (by decide) (by decide) (by decide)
  exact ⟨o, hread, hscripts, hformat, hcolor, husage.mpr (by rw [hscripts]; decide)⟩

end LoxFrontEnd
