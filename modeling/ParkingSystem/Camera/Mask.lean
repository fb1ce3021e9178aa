import ParkingSystem.Library.PyText

/-!
# Masked Camera Addresses

`mask_rtsp` hides the password of an address: one substitution of `(://[^:/@]+:)([^@]+)(@)` by
`\1***\3`. The expression wants a user, and ends the password at the first `@`.
-/

namespace ParkingSystem

open PyText

/-! ## The substitution -/

/-- `[^:/@]`. -/
def isUserChar (c : Char) : Bool := c != ':' && c != '/' && c != '@'

/-- A match that starts here: its first group, and what follows it. The classes leave one way to
match. -/
def maskMatch : List Char → Option (List Char × List Char)
  | ':' :: '/' :: '/' :: text =>
    let user := text.takeWhile isUserChar
    match text.dropWhile isUserChar with
    | ':' :: text =>
      let password := text.takeWhile (· != '@')
      match text.dropWhile (· != '@') with
      | '@' :: rest =>
        if user.isEmpty || password.isEmpty then none
        else some ("://".toList ++ user ++ [':'], rest)
      | _ => none
    | _ => none
  | _ => none

/-- `re.sub`, from left to right; `skip` characters of a match are still to be dropped. -/
def maskFrom : ℕ → List Char → List Char
  | _, [] => []
  | skip + 1, _ :: cs => maskFrom skip cs
  | 0, c :: cs =>
    match maskMatch (c :: cs) with
    | some (kept, rest) => kept ++ "***@".toList ++ maskFrom (cs.length - rest.length) cs
    | none => c :: maskFrom 0 cs

/-- `mask_rtsp`. -/
def maskRtsp (url : List Char) : List Char := maskFrom 0 url

/-! ## Matches -/

/-- What the expression finds: a user without separators, and a password up to the next `@`. -/
structure Credentials (user password : List Char) : Prop where
  user_ne : user ≠ []
  user_chars : ∀ c ∈ user, isUserChar c = true
  password_ne : password ≠ []
  password_at : '@' ∉ password

section

variable {c : Char} {cs user password rest text : List Char}

/-- What a match is. -/
theorem maskMatch_eq_some {kept : List Char} (h : maskMatch text = some (kept, rest)) :
    ∃ user password, kept = "://".toList ++ user ++ [':'] ∧ Credentials user password ∧
      text = kept ++ (password ++ '@' :: rest) := by
  unfold maskMatch at h
  split at h
  · rename_i text
    dsimp only at h
    split at h
    · rename_i after hafter
      split at h
      · rename_i rest' hrest
        split at h
        · cases h
        · rename_i hempty
          obtain ⟨rfl, rfl⟩ := Prod.mk.inj (Option.some.inj h)
          rw [Bool.or_eq_true, not_or, List.isEmpty_iff, List.isEmpty_iff] at hempty
          refine ⟨text.takeWhile isUserChar, after.takeWhile (· != '@'), rfl,
            ⟨hempty.1, fun c => List.mem_takeWhile_imp, hempty.2, fun hmem => ?_⟩, ?_⟩
          · have hnot := List.mem_takeWhile_imp hmem
            simp at hnot
          · have hsplit : after = after.takeWhile (· != '@') ++ '@' :: rest' := by
              rw [← hrest, List.takeWhile_append_dropWhile]
            have htext : text = text.takeWhile isUserChar ++ ':' :: after := by
              rw [← hafter, List.takeWhile_append_dropWhile]
            rw [← hsplit]
            simpa using htext
      · cases h
    · cases h
  · cases h

/-- Credentials are matched where they stand. -/
theorem Credentials.maskMatch (h : Credentials user password) :
    maskMatch ("://".toList ++ user ++ ':' :: (password ++ '@' :: rest)) =
      some ("://".toList ++ user ++ [':'], rest) := by
  have hfree : ∀ c ∈ password, (c != '@') = true := by
    intro c hc
    simpa using fun heq : c = '@' => h.password_at (heq ▸ hc)
  have htext : "://".toList ++ user ++ ':' :: (password ++ '@' :: rest) =
      ':' :: '/' :: '/' :: (user ++ ':' :: (password ++ '@' :: rest)) := rfl
  rw [htext, ParkingSystem.maskMatch]
  simp only [List.takeWhile_append_of_pos h.user_chars, List.dropWhile_append_of_pos h.user_chars]
  have hcolon : isUserChar ':' = false := rfl
  simp only [List.takeWhile_cons, List.dropWhile_cons, hcolon, Bool.false_eq_true, if_false,
    List.append_nil, List.takeWhile_append_of_pos hfree, List.dropWhile_append_of_pos hfree]
  simp [h.user_ne, h.password_ne]

theorem maskFrom_append (w rest : List Char) : maskFrom w.length (w ++ rest) = maskRtsp rest := by
  induction w with
  | nil => rfl
  | cons c w ih => exact ih

/-- A match is masked, and the substitution goes on after it. -/
theorem maskRtsp_found {kept : List Char} (h : maskMatch text = some (kept, rest)) :
    maskRtsp text = kept ++ "***@".toList ++ maskRtsp rest := by
  obtain ⟨user, password, hkept, -, htext⟩ := maskMatch_eq_some h
  obtain ⟨cs, hcons⟩ : ∃ cs, text = ':' :: cs := by
    rw [htext, hkept]
    exact ⟨_, rfl⟩
  subst hcons
  obtain ⟨w, hw⟩ : ∃ w, cs = w ++ rest := by
    rw [hkept] at htext
    refine ⟨"//".toList ++ user ++ [':'] ++ (password ++ ['@']), ?_⟩
    simpa using htext
  rw [maskRtsp, maskFrom, h]
  subst hw
  dsimp only
  rw [List.length_append, Nat.add_sub_cancel, maskFrom_append]

/-- Where no match starts, a character stays. -/
theorem maskRtsp_kept (h : maskMatch (c :: cs) = none) : maskRtsp (c :: cs) = c :: maskRtsp cs := by
  rw [maskRtsp, maskFrom, h]
  rfl

/-- A match starts with a colon. -/
theorem maskMatch_of_ne (h : c ≠ ':') : maskMatch (c :: cs) = none := by
  unfold maskMatch
  split
  · exact absurd (List.cons.inj (by assumption)).1 h
  · rfl

/-- Induction along the substitution: a match at the start, or a character that stays. -/
theorem mask_induction {P : List Char → Prop} (nil : P [])
    (found : ∀ text kept rest, maskMatch text = some (kept, rest) → P rest → P text)
    (kept : ∀ c cs, maskMatch (c :: cs) = none → P cs → P (c :: cs)) (text : List Char) :
    P text := by
  induction hlen : text.length using Nat.strong_induction_on generalizing text with
  | _ n ih =>
    cases text with
    | nil => exact nil
    | cons c cs =>
      cases hmatch : maskMatch (c :: cs) with
      | none => exact kept c cs hmatch (ih cs.length (by simp [← hlen]) cs rfl)
      | some m =>
        obtain ⟨_, _, _, _, htext⟩ := maskMatch_eq_some hmatch
        refine found _ m.1 m.2 hmatch (ih m.2.length ?_ m.2 rfl)
        rw [← hlen, htext]
        simp only [List.length_append, List.length_cons]
        omega

end

/-! ## Texts with a password -/

/-- The expression finds a password in the text. -/
def CarriesPassword (text : List Char) : Prop :=
  ∃ scheme user password rest, Credentials user password ∧
    text = scheme ++ ("://".toList ++ user ++ ':' :: (password ++ '@' :: rest))

/-- What is masked shows it, and what is not is shown as it is. -/
theorem mask_cases (text : List Char) :
    (CarriesPassword text ∧ "***".toList <:+: maskRtsp text) ∨
      (¬ CarriesPassword text ∧ maskRtsp text = text) := by
  induction text using mask_induction with
  | nil =>
    refine Or.inr ⟨?_, rfl⟩
    rintro ⟨scheme, user, password, rest, -, htext⟩
    simp at htext
  | found text kept rest hmatch _ =>
    obtain ⟨user, password, hkept, hfound, htext⟩ := maskMatch_eq_some hmatch
    refine Or.inl ⟨⟨[], user, password, rest, hfound, by simp [htext, hkept]⟩, ?_⟩
    rw [maskRtsp_found hmatch]
    exact ⟨kept, '@' :: maskRtsp rest, by simp⟩
  | kept c cs hmatch ih =>
    rw [maskRtsp_kept hmatch]
    -- a password further on, as none starts here
    have hrest : CarriesPassword (c :: cs) ↔ CarriesPassword cs := by
      constructor
      · rintro ⟨scheme, user, password, rest, hfound, htext⟩
        cases scheme with
        | nil =>
          rw [htext, List.nil_append, hfound.maskMatch] at hmatch
          cases hmatch
        | cons d scheme =>
          exact ⟨scheme, user, password, rest, hfound, (List.cons.inj htext).2⟩
      · rintro ⟨scheme, user, password, rest, hfound, htext⟩
        exact ⟨c :: scheme, user, password, rest, hfound, by rw [htext, List.cons_append]⟩
    rw [hrest]
    rcases ih with ⟨hcarries, hstars⟩ | ⟨hnot, hsame⟩
    · exact Or.inl ⟨hcarries, hstars.trans (List.suffix_cons c _).isInfix⟩
    · exact Or.inr ⟨hnot, by rw [hsame]⟩

/-! ## Addresses with a password -/

/-- `scheme://user:…@rest`, but for the password: the first colons are those of the form. -/
structure CameraAddress where
  scheme : List Char
  user : List Char
  rest : List Char
  scheme_colon : ':' ∉ scheme
  user_colon : ':' ∉ user

/-- The address with a password. -/
def CameraAddress.url (a : CameraAddress) (password : List Char) : List Char :=
  a.scheme ++ "://".toList ++ a.user ++ ':' :: (password ++ '@' :: a.rest)

/-- **Secrecy of a password**: what is shown is what is shown with any password without `@`. -/
def CameraAddress.Secret (a : CameraAddress) (password : List Char) : Prop :=
  ∀ other : List Char, other ≠ [] → '@' ∉ other →
    maskRtsp (a.url other) = maskRtsp (a.url password)

/-- The user of an address is one that the expression can find. -/
def CameraAddress.Named (a : CameraAddress) : Prop := a.user ≠ [] ∧ '/' ∉ a.user ∧ '@' ∉ a.user

section

variable {a : CameraAddress} {password : List Char}

/-- Where there is no colon, everything stays. -/
theorem maskRtsp_append {cs rest : List Char} (h : ':' ∉ cs) :
    maskRtsp (cs ++ rest) = cs ++ maskRtsp rest := by
  induction cs with
  | nil => rfl
  | cons c cs ih =>
    rw [List.mem_cons, not_or] at h
    rw [List.cons_append, maskRtsp_kept (maskMatch_of_ne (Ne.symm h.1)), ih h.2, List.cons_append]

/-- What stands before the first colon. -/
theorem takeWhile_colon {w text : List Char} (h : ':' ∉ w) :
    (w ++ ':' :: text).takeWhile (· != ':') = w := by
  have hfree : ∀ c ∈ w, (c != ':') = true := fun c hc => by
    simpa using fun heq : c = ':' => h (heq ▸ hc)
  simp [List.takeWhile_append_of_pos hfree]

/-- A named user and a password without `@` are found. -/
theorem CameraAddress.Named.credentials (h : a.Named) (hpassword : password ≠ [])
    (hat : '@' ∉ password) : Credentials a.user password where
  user_ne := h.1
  user_chars := by
    intro c hc
    have hcolon : c ≠ ':' := fun heq => a.user_colon (heq ▸ hc)
    have hslash : c ≠ '/' := fun heq => h.2.1 (heq ▸ hc)
    have hat : c ≠ '@' := fun heq => h.2.2 (heq ▸ hc)
    simp [isUserChar, hcolon, hslash, hat]
  password_ne := hpassword
  password_at := hat

/-- **A password without `@`** is hidden behind a user. -/
theorem CameraAddress.Named.maskRtsp_url (h : a.Named) (hpassword : password ≠ [])
    (hat : '@' ∉ password) :
    maskRtsp (a.url password) =
      a.scheme ++ ("://".toList ++ a.user ++ [':'] ++ "***@".toList ++ maskRtsp a.rest) := by
  have hurl : a.url password =
      a.scheme ++ ("://".toList ++ a.user ++ ':' :: (password ++ '@' :: a.rest)) := by
    simp [url]
  rw [hurl, maskRtsp_append a.scheme_colon, maskRtsp_found (h.credentials hpassword hat).maskMatch]

/-- The substitution keeps every `@`. -/
theorem count_maskRtsp (text : List Char) : (maskRtsp text).count '@' = text.count '@' := by
  induction text using mask_induction with
  | nil => rfl
  | found text kept rest hmatch ih =>
    obtain ⟨_, password, -, hfound, htext⟩ := maskMatch_eq_some hmatch
    have hnone : password.count '@' = 0 := List.count_eq_zero.2 hfound.password_at
    rw [maskRtsp_found hmatch]
    simp only [htext, List.count_append, ih, List.count_cons_self, hnone]
    have hstars : "***@".toList.count '@' = 1 := by decide
    omega
  | kept c cs hmatch ih => rw [maskRtsp_kept hmatch, List.count_cons, List.count_cons, ih]

/-- Behind a user that the expression does not find, a password of one letter is shown. -/
theorem maskRtsp_url_unnamed (h : ¬ a.Named) {c : Char} (hslash : c ≠ '/') (hcolon : c ≠ ':') :
    maskRtsp (a.url [c]) =
      a.scheme ++ (':' :: ("//".toList ++ a.user ++ ':' :: c :: maskRtsp ('@' :: a.rest))) := by
  have hurl : a.url [c] =
      a.scheme ++ (':' :: ("//".toList ++ a.user ++ (':' :: c :: '@' :: a.rest))) := by
    simp [CameraAddress.url]
  have hfirst : maskMatch (':' :: ("//".toList ++ a.user ++ (':' :: c :: '@' :: a.rest))) =
      none := by
    rw [Option.eq_none_iff_forall_ne_some]
    rintro ⟨kept, rest⟩ hmatch
    obtain ⟨user, password, rfl, ⟨hne, huser, -, -⟩, htext⟩ := maskMatch_eq_some hmatch
    have hsame : a.user ++ ':' :: (c :: '@' :: a.rest) =
        user ++ ':' :: (password ++ '@' :: rest) := by
      simpa using htext
    have hcolon : ':' ∉ user := fun hmem => by simpa [isUserChar] using huser _ hmem
    -- the user of the match is the user of the address
    have hself : a.user = user := by
      rw [← takeWhile_colon a.user_colon, hsame, takeWhile_colon hcolon]
    rw [← hself] at hne huser
    exact h ⟨hne, fun hmem => by simpa [isUserChar] using huser _ hmem,
      fun hmem => by simpa [isUserChar] using huser _ hmem⟩
  have hsecond : maskMatch (':' :: c :: '@' :: a.rest) = none := by
    unfold maskMatch
    split
    · rename_i heq
      exact absurd (List.cons.inj (List.cons.inj heq).2).1 hslash
    · rfl
  have hfree : ':' ∉ "//".toList ++ a.user := by
    rw [List.mem_append, not_or]
    exact ⟨by decide, a.user_colon⟩
  rw [hurl, maskRtsp_append a.scheme_colon, maskRtsp_kept hfirst, maskRtsp_append hfree,
    maskRtsp_kept hsecond, maskRtsp_kept (maskMatch_of_ne hcolon)]

/-- **Masked addresses**: a password is kept secret exactly where the address has a user without
separators and the password no `@`. -/
theorem secret_iff (a : CameraAddress) (password : List Char) (hpassword : password ≠ []) :
    a.Secret password ↔ a.Named ∧ '@' ∉ password := by
  constructor
  · intro hsecret
    have hnamed : a.Named := by
      by_contra hnot
      -- two passwords of one letter would look alike
      have hx := hsecret ['x'] (by simp) (by decide)
      have hy := hsecret ['y'] (by simp) (by decide)
      rw [maskRtsp_url_unnamed hnot (by decide) (by decide)] at hx hy
      simpa using hx.trans hy.symm
    refine ⟨hnamed, fun hat => ?_⟩
    -- the masked address shows how many `@` the password has
    have hcount := congrArg (List.count '@') (hsecret ['x'] (by simp) (by decide))
    rw [count_maskRtsp, count_maskRtsp] at hcount
    have hpos := List.count_pos_iff.2 hat
    have hone : (['x'] : List Char).count '@' = 0 := by decide
    simp only [CameraAddress.url, List.count_append, List.count_cons_self, List.count_cons_of_ne,
      ne_eq, Char.reduceEq, not_false_eq_true, hone] at hcount
    omega
  · rintro ⟨hnamed, hat⟩ other hother hother_at
    rw [hnamed.maskRtsp_url hother hother_at, hnamed.maskRtsp_url hpassword hat]

end

/-- The address of a camera with a user. -/
def namedCamera : CameraAddress where
  scheme := "rtsp".toList
  user := "admin".toList
  rest := "10.0.0.5:554/stream".toList
  scheme_colon := by decide
  user_colon := by decide

theorem secret_iff_namedCamera :
    "s3:cr/et".toList ≠ [] ∧ (namedCamera.Secret "s3:cr/et".toList ↔
      namedCamera.Named ∧ '@' ∉ "s3:cr/et".toList) :=
  ⟨by decide, secret_iff namedCamera "s3:cr/et".toList (by decide)⟩

/-- The end of a password after an `@` is shown. -/
theorem masked_password_shown : ¬ ∀ (a : CameraAddress) (password other : List Char),
    password ≠ [] → other ≠ [] →
      maskRtsp (a.url password) = maskRtsp (a.url other) := by
  intro h
  have hsame := h namedCamera "p@ssw0rd".toList "p@rking".toList (by decide) (by decide)
  exact absurd hsame (by decide)

end ParkingSystem
