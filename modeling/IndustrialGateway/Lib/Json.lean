import Mathlib.Data.List.Basic

/-!
# JSON texts

The grammar of RFC 8259 over lists of characters. A reader that only tells the
inside of strings from the rest sees what can stand outside of them.
-/

namespace Json

-- ---------------------------------------------------------------------------
-- Words
-- ---------------------------------------------------------------------------

def Ws (cs : List Char) : Prop := ∀ c ∈ cs, c ∈ [' ', '\t', '\n', '\r']

def Digits (cs : List Char) : Prop := ∀ c ∈ cs, c.isDigit = true

inductive IntPart : List Char → Prop
  | zero : IntPart ['0']
  | digits {c : Char} {cs : List Char} (hc : c.isDigit = true) (hne : c ≠ '0') (hcs : Digits cs) :
    IntPart (c :: cs)

inductive Fraction : List Char → Prop
  | absent : Fraction []
  | digits {cs : List Char} (hne : cs ≠ []) (hcs : Digits cs) : Fraction ('.' :: cs)

inductive Exponent : List Char → Prop
  | absent : Exponent []
  | digits {e : Char} {sign cs : List Char} (he : e ∈ ['e', 'E']) (hsign : sign ∈ [[], ['+'], ['-']])
    (hne : cs ≠ []) (hcs : Digits cs) : Exponent (e :: (sign ++ cs))

inductive Number : List Char → Prop
  | mk (minus : List Char) {int fraction exponent : List Char} (hminus : minus ∈ [[], ['-']])
    (hint : IntPart int) (hfraction : Fraction fraction) (hexponent : Exponent exponent) :
    Number (minus ++ int ++ fraction ++ exponent)

def isHex (c : Char) : Bool := c.isDigit || c ∈ "abcdefABCDEF".toList

/-- What stands between the quotes of a string. -/
inductive Chars : List Char → Prop
  | nil : Chars []
  | plain {c : Char} {cs : List Char} (hc : 0x20 ≤ c.toNat ∧ c ≠ '"' ∧ c ≠ '\\') (h : Chars cs) :
    Chars (c :: cs)
  | escape {c : Char} {cs : List Char} (hc : c ∈ ['"', '\\', '/', 'b', 'f', 'n', 'r', 't'])
    (h : Chars cs) : Chars ('\\' :: c :: cs)
  | unicode (hex : List Char) {cs : List Char} (hlen : hex.length = 4) (hhex : ∀ c ∈ hex, isHex c = true)
    (h : Chars cs) : Chars ('\\' :: 'u' :: (hex ++ cs))

theorem Chars.append {cs ds : List Char} (h : Chars cs) (h' : Chars ds) : Chars (cs ++ ds) := by
  induction h with
  | nil => exact h'
  | plain hc _ ih => exact .plain hc ih
  | escape hc _ ih => exact .escape hc ih
  | @unicode hex cs hlen hhex _ ih =>
    have hparts : '\\' :: 'u' :: (hex ++ cs) ++ ds = '\\' :: 'u' :: (hex ++ (cs ++ ds)) := by simp
    rw [hparts]
    exact .unicode hex hlen hhex ih

-- ---------------------------------------------------------------------------
-- Texts
-- ---------------------------------------------------------------------------

inductive Symbol where
  | value
  | element
  | elements
  | member
  | members

/-- An element is a value with blanks around it; so is a whole text. -/
inductive Derives : Symbol → List Char → Prop
  | null : Derives .value "null".toList
  | true : Derives .value "true".toList
  | false : Derives .value "false".toList
  | number {cs : List Char} (h : Number cs) : Derives .value cs
  | string {cs : List Char} (h : Chars cs) : Derives .value ('"' :: (cs ++ ['"']))
  | emptyArray {ws : List Char} (h : Ws ws) : Derives .value ('[' :: (ws ++ [']']))
  | array {cs : List Char} (h : Derives .elements cs) : Derives .value ('[' :: (cs ++ [']']))
  | emptyObject {ws : List Char} (h : Ws ws) : Derives .value ('\x7b' :: (ws ++ ['\x7d']))
  | object {cs : List Char} (h : Derives .members cs) : Derives .value ('\x7b' :: (cs ++ ['\x7d']))
  | element {ws cs ws' : List Char} (hws : Ws ws) (h : Derives .value cs) (hws' : Ws ws') :
    Derives .element (ws ++ cs ++ ws')
  | lastElement {cs : List Char} (h : Derives .element cs) : Derives .elements cs
  | elements {cs ds : List Char} (h : Derives .element cs) (h' : Derives .elements ds) :
    Derives .elements (cs ++ ',' :: ds)
  | member {ws name ws' cs : List Char} (hws : Ws ws) (hname : Chars name) (hws' : Ws ws')
    (h : Derives .element cs) :
    Derives .member (ws ++ '"' :: (name ++ ['"']) ++ ws' ++ ':' :: cs)
  | lastMember {cs : List Char} (h : Derives .member cs) : Derives .members cs
  | members {cs ds : List Char} (h : Derives .member cs) (h' : Derives .members ds) :
    Derives .members (cs ++ ',' :: ds)

def IsText (cs : List Char) : Prop := Derives .element cs

/-- Blanks may stand before an element, and so before a list of them. -/
theorem Derives.padded {symbol : Symbol} {pad cs : List Char} (hpad : Ws pad) (h : Derives symbol cs)
    (hsymbol : symbol ≠ .value) : Derives symbol (pad ++ cs) := by
  have hws : ∀ {ws}, Ws ws → Ws (pad ++ ws) := fun h c hc =>
    (List.mem_append.mp hc).elim (hpad c) (h c)
  induction h with
  | element hws' h hws'' => simpa using Derives.element (hws hws') h hws''
  | lastElement _ ih => exact .lastElement (ih nofun)
  | elements _ h' ih _ =>
    rw [← List.append_assoc]
    exact .elements (ih nofun) h'
  | member hws' hname hws'' h => simpa using Derives.member (hws hws') hname hws'' h
  | lastMember _ ih => exact .lastMember (ih nofun)
  | members _ h' ih _ =>
    rw [← List.append_assoc]
    exact .members (ih nofun) h'
  | _ => exact absurd rfl hsymbol

theorem ws_nil : Ws [] := fun _ hc => nomatch hc

theorem Derives.bare {cs : List Char} (h : Derives .value cs) : Derives .element cs := by
  simpa using Derives.element ws_nil h ws_nil

-- ---------------------------------------------------------------------------
-- Outside of strings
-- ---------------------------------------------------------------------------

/-- Where a reader stands that only looks for quotes. -/
inductive Place where
  | outside
  | inside
  | escaped
  deriving DecidableEq

def Place.next : Place → Char → Place
  | .outside, c => if c = '"' then .inside else .outside
  | .inside, c => if c = '"' then .outside else if c = '\\' then .escaped else .inside
  | .escaped, _ => .inside

def endOf (place : Place) (cs : List Char) : Place := cs.foldl Place.next place

/-- The characters read outside of strings, their opening quotes among them. -/
def outsideOf : Place → List Char → List Char
  | _, [] => []
  | .outside, c :: cs => c :: outsideOf (Place.next .outside c) cs
  | place, c :: cs => outsideOf (place.next c) cs

theorem endOf_append (place : Place) (cs ds : List Char) :
    endOf place (cs ++ ds) = endOf (endOf place cs) ds := List.foldl_append

theorem outsideOf_append (place : Place) (cs ds : List Char) :
    outsideOf place (cs ++ ds) = outsideOf place cs ++ outsideOf (endOf place cs) ds := by
  induction cs generalizing place with
  | nil => rfl
  | cons c cs ih =>
    cases place <;> simp only [List.cons_append, outsideOf, ih] <;> rfl

/-- The text leaves the reader outside of strings, with these characters read there. -/
def Reads (cs seen : List Char) : Prop := endOf .outside cs = .outside ∧ outsideOf .outside cs = seen

theorem Reads.append {cs ds seen seen' : List Char} (h : Reads cs seen) (h' : Reads ds seen') :
    Reads (cs ++ ds) (seen ++ seen') := by
  refine ⟨?_, ?_⟩
  · rw [endOf_append, h.1, h'.1]
  · rw [outsideOf_append, h.1, h.2, h'.2]

theorem reads_plain {cs : List Char} (h : '"' ∉ cs) : Reads cs cs := by
  induction cs with
  | nil => exact ⟨rfl, rfl⟩
  | cons c cs ih =>
    obtain ⟨hc, hcs⟩ := List.ne_and_not_mem_of_not_mem_cons h
    obtain ⟨hend, hseen⟩ := ih hcs
    have hnext : Place.next .outside c = .outside := if_neg (Ne.symm hc)
    refine ⟨?_, ?_⟩
    · rw [endOf, List.foldl_cons, hnext]
      exact hend
    · rw [outsideOf, hnext, hseen]

theorem inside_chars {cs : List Char} (h : Chars cs) :
    endOf .inside cs = .inside ∧ outsideOf .inside cs = [] := by
  induction h with
  | nil => exact ⟨rfl, rfl⟩
  | @plain c cs hc _ ih =>
    have hnext : Place.next .inside c = .inside := by
      rw [Place.next, if_neg hc.2.1, if_neg hc.2.2]
    refine ⟨?_, ?_⟩
    · rw [endOf, List.foldl_cons, hnext]
      exact ih.1
    · rw [outsideOf, hnext, ih.2]
      exact fun h => nomatch h
  | escape hc _ ih => exact ih
  | @unicode hex cs hlen hhex _ ih =>
    have hstep : ∀ ds : List Char, (∀ c ∈ ds, isHex c = true) →
        endOf .inside (ds ++ cs) = .inside ∧ outsideOf .inside (ds ++ cs) = [] := by
      intro ds hds
      induction ds with
      | nil => exact ih
      | cons d ds ihd =>
        have hd := hds d List.mem_cons_self
        have hnext : Place.next .inside d = .inside := by
          rw [Place.next, if_neg, if_neg]
          · rintro rfl
            exact absurd hd (by decide)
          · rintro rfl
            exact absurd hd (by decide)
        obtain ⟨hend, hseen⟩ := ihd fun c hc => hds c (List.mem_cons_of_mem d hc)
        refine ⟨?_, ?_⟩
        · rw [List.cons_append, endOf, List.foldl_cons, hnext]
          exact hend
        · rw [List.cons_append, outsideOf, hnext, hseen]
          exact fun h => nomatch h
    exact hstep hex hhex

/-- Of a string only its opening quote is seen. -/
theorem reads_string {cs : List Char} (h : Chars cs) : Reads ('"' :: (cs ++ ['"'])) ['"'] := by
  obtain ⟨hend, hseen⟩ := inside_chars h
  have hopen : Place.next .outside '"' = .inside := rfl
  refine ⟨?_, ?_⟩
  · rw [endOf, List.foldl_cons, hopen]
    have happend := endOf_append .inside cs ['"']
    rw [hend] at happend
    exact happend
  · rw [outsideOf, hopen, outsideOf_append, hend, hseen]
    rfl

/-- The characters of the grammar but for those inside strings. -/
def isToken (c : Char) : Bool := c.isDigit || c ∈ " \t\n\r[]\x7b\x7d:,\"+-.eEtruefalsn".toList

/-- Outside of its strings the text has tokens only. -/
def Sober (cs : List Char) : Prop := ∃ seen, Reads cs seen ∧ ∀ c ∈ seen, isToken c = true

theorem Sober.append {cs ds : List Char} (h : Sober cs) (h' : Sober ds) : Sober (cs ++ ds) := by
  obtain ⟨seen, hreads, htokens⟩ := h
  obtain ⟨seen', hreads', htokens'⟩ := h'
  refine ⟨seen ++ seen', hreads.append hreads', ?_⟩
  intro c hc
  rcases List.mem_append.mp hc with hc | hc
  · exact htokens c hc
  · exact htokens' c hc

theorem sober_plain {cs : List Char} (h : ∀ c ∈ cs, isToken c = true ∧ c ≠ '"') : Sober cs :=
  ⟨cs, reads_plain fun hmem => (h _ hmem).2 rfl, fun c hc => (h c hc).1⟩

theorem sober_word {cs : List Char} (h : (cs.all fun c => isToken c && c != '"') = true) :
    Sober cs := by
  refine sober_plain fun c hc => ?_
  have hboth := List.all_eq_true.mp h c hc
  simpa using hboth

theorem sober_string {cs : List Char} (h : Chars cs) : Sober ('"' :: (cs ++ ['"'])) := by
  refine ⟨['"'], reads_string h, ?_⟩
  intro c hc
  obtain rfl := List.mem_singleton.mp hc
  decide

theorem sober_ws {cs : List Char} (h : Ws cs) : Sober cs := by
  refine sober_plain fun c hc => ?_
  have hc := h c hc
  simp only [List.mem_cons, List.not_mem_nil, or_false] at hc
  rcases hc with rfl | rfl | rfl | rfl <;> decide

theorem sober_digits {cs : List Char} (h : Digits cs) : Sober cs := by
  refine sober_plain fun c hc => ?_
  have hdigit := h c hc
  refine ⟨by simp [isToken, hdigit], ?_⟩
  rintro rfl
  exact absurd hdigit (by decide)

theorem Sober.cons {c : Char} {cs : List Char} (hc : isToken c = true ∧ c ≠ '"') (h : Sober cs) :
    Sober (c :: cs) := by
  have hhead : Sober [c] := sober_plain fun _ hd => List.mem_singleton.mp hd ▸ hc
  exact hhead.append h

theorem sober_number {cs : List Char} (h : Number cs) : Sober cs := by
  obtain ⟨minus, hminus, hint, hfraction, hexponent⟩ := h
  refine .append (.append (.append ?_ ?_) ?_) ?_
  · simp only [List.mem_cons, List.not_mem_nil, or_false] at hminus
    rcases hminus with rfl | rfl
    · exact sober_plain fun c hc => nomatch hc
    · exact .cons (by decide) (sober_plain fun c hc => nomatch hc)
  · cases hint with
    | zero => exact .cons (by decide) (sober_plain fun c hc => nomatch hc)
    | digits hc hne hcs =>
      have hall : Digits _ := List.forall_mem_cons.mpr ⟨hc, hcs⟩
      exact sober_digits hall
  · cases hfraction with
    | absent => exact sober_plain fun c hc => nomatch hc
    | digits hne hcs => exact .cons (by decide) (sober_digits hcs)
  · cases hexponent with
    | absent => exact sober_plain fun c hc => nomatch hc
    | digits he hsign hne hcs =>
      refine .cons ?_ (.append ?_ (sober_digits hcs))
      · simp only [List.mem_cons, List.not_mem_nil, or_false] at he
        rcases he with rfl | rfl <;> decide
      · simp only [List.mem_cons, List.not_mem_nil, or_false] at hsign
        rcases hsign with rfl | rfl | rfl
        · exact sober_plain fun c hc => nomatch hc
        · exact .cons (by decide) (sober_plain fun c hc => nomatch hc)
        · exact .cons (by decide) (sober_plain fun c hc => nomatch hc)

/-- Outside of its strings a JSON text has tokens only. -/
theorem Derives.sober {symbol : Symbol} {cs : List Char} (h : Derives symbol cs) : Sober cs := by
  have hempty : Sober [] := sober_plain fun c hc => nomatch hc
  have hclose : ∀ c, isToken c = Bool.true ∧ c ≠ '"' → Sober [c] := fun c hc => .cons hc hempty
  induction h with
  | null => exact sober_word (by decide)
  | true => exact sober_word (by decide)
  | false => exact sober_word (by decide)
  | number h => exact sober_number h
  | string h => exact sober_string h
  | emptyArray h => exact .cons (by decide) ((sober_ws h).append (hclose ']' (by decide)))
  | array _ ih => exact .cons (by decide) (ih.append (hclose ']' (by decide)))
  | emptyObject h => exact .cons (by decide) ((sober_ws h).append (hclose '\x7d' (by decide)))
  | object _ ih => exact .cons (by decide) (ih.append (hclose '\x7d' (by decide)))
  | element hws _ hws' ih => exact ((sober_ws hws).append ih).append (sober_ws hws')
  | lastElement _ ih => exact ih
  | elements _ _ ih ih' => exact ih.append (.cons (by decide) ih')
  | member hws hname hws' _ ih =>
    exact (((sober_ws hws).append (sober_string hname)).append (sober_ws hws')).append
      (.cons (by decide) ih)
  | lastMember _ ih => exact ih
  | members _ _ ih ih' => exact ih.append (.cons (by decide) ih')

/-- The text ends outside of strings. -/
def Balanced (cs : List Char) : Prop := ∃ seen, Reads cs seen

/-- A character stands outside of strings that no JSON text has there. -/
def Spoilt (cs : List Char) : Prop := ∃ seen, Reads cs seen ∧ ∃ c ∈ seen, isToken c = false

theorem Sober.balanced {cs : List Char} (h : Sober cs) : Balanced cs :=
  let ⟨seen, hreads, _⟩ := h
  ⟨seen, hreads⟩

theorem Spoilt.balanced {cs : List Char} (h : Spoilt cs) : Balanced cs :=
  let ⟨seen, hreads, _⟩ := h
  ⟨seen, hreads⟩

theorem Spoilt.append {cs ds : List Char} (h : Spoilt cs) (h' : Balanced ds) : Spoilt (cs ++ ds) := by
  obtain ⟨seen, hreads, c, hc, htoken⟩ := h
  obtain ⟨seen', hreads'⟩ := h'
  exact ⟨seen ++ seen', hreads.append hreads', c, List.mem_append_left seen' hc, htoken⟩

theorem Balanced.append_spoilt {cs ds : List Char} (h : Balanced cs) (h' : Spoilt ds) :
    Spoilt (cs ++ ds) := by
  obtain ⟨seen, hreads⟩ := h
  obtain ⟨seen', hreads', c, hc, htoken⟩ := h'
  exact ⟨seen ++ seen', hreads.append hreads', c, List.mem_append_right seen hc, htoken⟩

theorem Spoilt.not_isText {cs : List Char} (h : Spoilt cs) : ¬IsText cs := by
  intro htext
  obtain ⟨seen, hreads, hall⟩ := Derives.sober htext
  obtain ⟨seen', hreads', c, hc, htoken⟩ := h
  obtain rfl : seen' = seen := hreads'.2.symm.trans hreads.2
  rw [hall c hc] at htoken
  cases htoken

end Json
