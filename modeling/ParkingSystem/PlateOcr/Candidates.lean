import ParkingSystem.PlateOcr.Assemble
import ParkingSystem.PlateOcr.Boxes
import ParkingSystem.Library.Ranking

/-!
# The Ranking of Candidates

`read_image` collects candidates from every crop that it reads: what was read, and what repairs
make of it. Equal texts are merged into one that gathers their votes, guessed letters are held
back, a family of digits keeps three texts, and the list is cut to twelve; the codes of provinces
that were read on their own are put on after that. What is reported as the best is taken from
this list.

Scores and confidences are exact rationals.
-/

namespace ParkingSystem.PlateText

open Plate PyText PyDict Ranking

/-! ## Collecting -/

/-- `_Candidate`, without the picture of the crop. -/
structure Candidate where
  text : List Char
  conf : ℚ
  method : List Char
  valid : Bool := false
  box : Option Box := none
  score : ℚ := 0
  provBonus : ℚ := 0
  deriving DecidableEq

/-- What one run of a reader gave: the arguments of `_collect`. -/
structure Reading where
  text : List Char
  conf : ℚ
  method : List Char
  box : Option Box := none

/-- A text that `_collect` makes of a reading. -/
def Reading.made (r : Reading) (text : List Char) (mul : ℚ) (tag : String) : Candidate :=
  { text := text, conf := r.conf * mul, method := r.method ++ tag.toList, valid := true,
    box := r.box }

/-- The part of `_collect` that forces the form. -/
def enforced (r : Reading) (norm : List Char) : List Candidate :=
  let fixed := enforceFormat norm
  if (norm.length = 6 ∨ norm.length = 8) ∧ fixed ≠ norm ∧ (validate fixed).2 then
    let alt := fixed.take 2 ++ 'ق' :: fixed.drop 3
    -- a «٥» in the place of the letter may be either of two letters
    if norm.length = 6 ∧ norm[2]? = some '5' ∧ fixed[2]? = some 'د' ∧ alt ≠ fixed ∧
        (validate alt).2 then
      [r.made fixed (95 / 100) "+enforce", r.made alt (95 / 100) "+enforce"]
    else [r.made fixed (95 / 100) "+enforce"]
  else []

/-- The part of `_collect` that repairs; no text is emitted twice. -/
def repaired (r : Reading) (emitted : List (List Char)) :
    List (List Char × ℚ) → List Candidate
  | [] => []
  | (fixed, mul) :: rest =>
    if emitted.contains fixed then repaired r emitted rest
    else r.made fixed mul "+repair" :: repaired r (fixed :: emitted) rest

/-- `_collect`: the candidates it adds, and whether one of them is valid. -/
def collect (r : Reading) : List Candidate × Bool :=
  let (norm, valid) := validate r.text
  let raw : Candidate :=
    { text := norm, conf := r.conf, method := r.method, valid := valid, box := r.box }
  if valid then ([raw], true)
  else
    let fixed := enforced r norm
    let found := fixed ++ repaired r (fixed.map Candidate.text) (repairCandidates norm)
    (raw :: found, !found.isEmpty)

/-- The candidates of all readings, in order. -/
def candidates (readings : List Reading) : List Candidate :=
  readings.flatMap fun r => (collect r).1

/-! ## Votes -/

/-- A text near the length of a plate; others are noise of the scene. -/
def inRange (c : Candidate) : Bool := decide (5 ≤ c.text.length) && decide (c.text.length ≤ 9)

/-- The score of one candidate. -/
def ownScore (c : Candidate) : ℚ := (if c.valid then 2 else 0) + min c.conf 1

/-- A candidate meets the one of its text. -/
def vote (c : Candidate) : Option Candidate → Candidate
  | none => { c with score := ownScore c }
  | some cur => { cur with score := cur.score + 1 / 2 * min (ownScore c) 3,
                           conf := max cur.conf c.conf }

/-- `dedup`. -/
def dedup (cands : List Candidate) : List (List Char × Candidate) :=
  groupInto Candidate.text vote [] (cands.filter inRange)

/-- Whether a text has a letter where plates have it. -/
def lettered (t : List Char) : Bool :=
  (decide (t.length = 6) || decide (t.length = 8)) && (t[2]?).any isLetter

/-- The digits around the letter, without the code of the province. -/
def digitGroups (t : List Char) : List Char × List Char := (t.take 2, (t.drop 3).take 3)

/-- Whether the letter was guessed. -/
def guessed (method : List Char) : Bool :=
  isInfix "+enforce".toList method || isInfix "+repair".toList method

/-- The penalty of a guessed letter, where a letter was read for the same digits. -/
def penalize (table : List Candidate) : List Candidate :=
  table.map fun c =>
    if lettered c.text && guessed c.method && table.any (fun m => lettered m.text &&
        digitGroups m.text == digitGroups c.text && !guessed m.method) then
      { c with score := c.score * (4 / 5) }
    else c

/-! ## The list -/

/-- `fam`: texts that differ in the letter are one family. -/
def family (t : List Char) : List Char := if lettered t then t.take 2 ++ t.drop 3 else t

/-- `MAX_CANDIDATES`. -/
def MAX_CANDIDATES : ℕ := 12

/-- `ranked`, before the codes of provinces are put on. -/
def voted (cands : List Candidate) : List Candidate :=
  (quota 3 (family ∘ Candidate.text) []
    (byScore Candidate.score (penalize ((dedup cands).map Prod.snd)))).take MAX_CANDIDATES

/-- The text with the code of a province, where it fits. -/
def withProvince (t pd : List Char) : Option (List Char) :=
  if t.length = 6 then some (t ++ pd)
  else if t.length = 8 ∧ t.drop 6 ≠ pd then some (t.take 6 ++ pd)
  else none

/-- The candidate that the code of a province makes of one. -/
def provinceCandidate (c : Candidate) (read : List Char × ℚ) : Option Candidate :=
  let (pd, pc) := read
  if pc < 45 / 100 then none
  else match withProvince c.text pd with
    | none => none
    | some fixed =>
      if fixed = c.text ∨ (validate fixed).2 = false then none
      else
        let bonus : ℚ := if 55 / 100 ≤ pc then 35 / 100 else 15 / 100
        let score := c.score + bonus - (if c.text.length = 8 then 10 / 100 else 0)
        some { text := fixed, conf := min (99 / 100) (max pc (60 / 100)),
               method := c.method ++ "+province".toList, valid := true, box := c.box,
               score := round4 score, provBonus := bonus }

/-- The codes that were read in the boxes: `prov_by_box`. -/
abbrev Provinces := Box → Option (List (List Char × ℚ))

/-- What the codes of provinces make of a list of candidates. -/
def provinceReads (prov : Provinces) (c : Candidate) : List Candidate :=
  match c.valid, c.box with
  | true, some box => (((prov box).getD []).take 2).filterMap (provinceCandidate c)
  | _, _ => []

/-- A text keeps its candidate until one with a higher score comes. -/
def keepBetter (cand : Candidate) : Option Candidate → Candidate
  | some cur => if cur.score < cand.score then cand else cur
  | none => cand

/-- `extra`. -/
def extra (prov : Provinces) (list : List Candidate) : List (List Char × Candidate) :=
  groupInto Candidate.text keepBetter [] (list.flatMap (provinceReads prov))

/-- An extra candidate joins the list, or takes the place of one with its text. -/
def join (list : List Candidate) (cand : Candidate) : List Candidate :=
  match list.find? fun c => c.text == cand.text with
  | none => list ++ [cand]
  | some hit => if hit.score < cand.score then list.replace hit cand else list

/-- `ranked`, as `read_image` leaves it. -/
def ranking (prov : Provinces) (cands : List Candidate) : List Candidate :=
  (byScore Candidate.score (((extra prov (voted cands)).map Prod.snd).foldl join
    (voted cands))).take MAX_CANDIDATES

/-- `best`: a valid candidate at or above the threshold, or any valid one, or the first. -/
def best (minConf : ℚ) (list : List Candidate) : Option Candidate :=
  (list.find? fun c => c.valid && decide (minConf ≤ c.conf)) <|> list.find? Candidate.valid <|>
    list.head?

end ParkingSystem.PlateText
