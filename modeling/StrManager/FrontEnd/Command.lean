import StrManager.Library.Text
import Mathlib.Data.List.Nodup

namespace StrManager

open Library

/-! The lines of the command-line and web service front ends. Only the end of
`execute` differs between them, so both read a line as the same command. -/

/-- What a line asks for. An address stays text here. -/
inductive Command where
  | addSource (workerType : Int) (ip : Text) (port : Int)
  | removeSource (srcId : Int)
  | addDestination (flow : Int) (ip : Text) (port : Int)
  | removeDestination (flow flow2 : Int)
  | removeIpAddress
  | printManagement
  | printForwarding
  | printPortFd
  | help
  | exit
  | bad
  | nothing
  deriving DecidableEq, Repr

def count (line : Text) (token : Char) : Nat := List.count token line

namespace Command

open Text

/-! What `execute` does with the lines of each kind, up to the call. -/

def addSourceLine (line : Text) : Except TextFault Command := do
  let line ← line.substr 10 none
  let workerType ← atoi (← line.substr 0 (line.find ' '))
  let line ← line.substr (past (line.find ' ')) none
  let line2 ← line.substr 0 (line.find ' ')
  let port ← atoi (← line.substr (past (line.findLastOf ' ')) none)
  return .addSource workerType line2 port

def removeSourceLine (line : Text) : Except TextFault Command := do
  let line ← line.substr 10 none
  return .removeSource (← atoi line)

def addDestinationLine (line : Text) : Except TextFault Command := do
  let line ← line.substr 15 none
  let line2 ← line.substr 0 (line.find ' ')
  let flow ← atoi line2
  let line ← line.substr (past (line.find ' ')) none
  let line2 ← line.substr 0 (line.find ' ')
  let port ← atoi (← line.substr (past (line.find ' ')) none)
  return .addDestination flow line2 port

def removeDestinationLine (line : Text) : Except TextFault Command := do
  let line ← line.substr 15 none
  let flow ← atoi (← line.substr 0 (line.find ' '))
  let flow2 ← atoi (← line.substr (past (line.find ' ')) none)
  return .removeDestination flow flow2

def removeIpAddressLine (line : Text) : Except TextFault Command := do
  let _ ← line.substr 6 none
  return .removeIpAddress

/-- `execute`. -/
def ofLine (line : Text) : Except TextFault Command :=
  if line = [] then .ok .nothing
  else if line.substr 0 (some 9) = .ok "addsource".toList ∧
      count line ' ' = 3 then addSourceLine line
  else if line.substr 0 (some 9) = .ok "remsource".toList ∧
      count line ' ' = 1 then removeSourceLine line
  else if line.substr 0 (some 14) = .ok "adddestination".toList ∧
      count line ' ' = 3 then addDestinationLine line
  else if line.substr 0 (some 14) = .ok "remdestination".toList ∧
      count line ' ' = 2 then removeDestinationLine line
  else if line.substr 0 (some 5) = .ok "remip".toList ∧
      count line ' ' = 1 then removeIpAddressLine line
  else if line.substr 0 (some 6) = .ok "printm".toList then
    .ok .printManagement
  else if line.substr 0 (some 6) = .ok "printf".toList then
    .ok .printForwarding
  else if line.substr 0 (some 6) = .ok "printp".toList then .ok .printPortFd
  else if line.substr 0 (some 4) = .ok "help".toList then .ok .help
  else if line.substr 0 (some 4) = .ok "exit".toList then .ok .exit
  else .ok .bad

/-! What the lines mean. -/

def numbers : Command → List Int
  | .addSource workerType _ port => [workerType, port]
  | .removeSource srcId => [srcId]
  | .addDestination flow _ port => [flow, port]
  | .removeDestination flow flow2 => [flow, flow2]
  | _ => []

/-- `atoi` is undefined on a number that no `int` holds. -/
def checked (command : Command) : Except TextFault Command :=
  if ∀ number ∈ command.numbers, IntRange number then .ok command
  else .error .unrepresentable

/-- The words a line may begin with, and how many spaces it has then. -/
def keywords : List (Text × Option Nat) :=
  [("addsource".toList, some 3), ("remsource".toList, some 1),
    ("adddestination".toList, some 3), ("remdestination".toList, some 2),
    ("remip".toList, some 1), ("printm".toList, none),
    ("printf".toList, none), ("printp".toList, none), ("help".toList, none),
    ("exit".toList, none)]

def Matches (line : Text) (keyword : Text × Option Nat) : Prop :=
  keyword.1 <+: line ∧ ∀ spaces ∈ keyword.2, count line ' ' = spaces

instance (line : Text) (keyword : Text × Option Nat) :
    Decidable (Matches line keyword) :=
  inferInstanceAs (Decidable (_ ∧ ∀ _ ∈ _, _))

/-- How a line is read, with the numbers as they are written. The character
behind a keyword is skipped whatever it is, so that a line may have a space
less there and a field more at its end. -/
inductive Reads : Text → Command → Prop
  | nothing : Reads [] .nothing
  | addSource {workerType ip port : Text} (spaced : ' ' ∉ workerType)
      (spaced2 : ' ' ∉ ip) (spaced3 : ' ' ∉ port) :
      Reads ("addsource".toList ++
          ' ' :: (workerType ++ ' ' :: (ip ++ ' ' :: port)))
        (.addSource workerType.numeral ip port.numeral)
  | addSourceGlued {c : Char} {workerType ip other port : Text}
      (glued : c ≠ ' ') (spaced : ' ' ∉ workerType) (spaced2 : ' ' ∉ ip)
      (spaced3 : ' ' ∉ other) (spaced4 : ' ' ∉ port) :
      Reads ("addsource".toList ++
          c :: (workerType ++ ' ' :: (ip ++ ' ' :: (other ++ ' ' :: port))))
        (.addSource workerType.numeral ip port.numeral)
  | removeSource {c : Char} {srcId : Text}
      (spaces : count (c :: srcId) ' ' = 1) :
      Reads ("remsource".toList ++ c :: srcId) (.removeSource srcId.numeral)
  | addDestination {c : Char} {flow ip port : Text} (spaced : ' ' ∉ flow)
      (spaced2 : ' ' ∉ ip) (spaces : count (c :: port) ' ' = 1) :
      Reads ("adddestination".toList ++
          c :: (flow ++ ' ' :: (ip ++ ' ' :: port)))
        (.addDestination flow.numeral ip port.numeral)
  | removeDestination {c : Char} {flow flow2 : Text} (spaced : ' ' ∉ flow)
      (spaces : count (c :: flow2) ' ' = 1) :
      Reads ("remdestination".toList ++ c :: (flow ++ ' ' :: flow2))
        (.removeDestination flow.numeral flow2.numeral)
  | removeIpAddress {line : Text} (ip : Matches line ("remip".toList, some 1)) :
      Reads line .removeIpAddress
  | printManagement {rest : Text} :
      Reads ("printm".toList ++ rest) .printManagement
  | printForwarding {rest : Text} :
      Reads ("printf".toList ++ rest) .printForwarding
  | printPortFd {rest : Text} : Reads ("printp".toList ++ rest) .printPortFd
  | help {rest : Text} : Reads ("help".toList ++ rest) .help
  | exit {rest : Text} : Reads ("exit".toList ++ rest) .exit
  | bad {line : Text} (content : line ≠ [])
      (unknown : ∀ keyword ∈ keywords, ¬ Matches line keyword) :
      Reads line .bad

/-! Which branch a line takes. -/

theorem begins_iff (line word : Text) :
    line.substr 0 (some word.length) = .ok word ↔ word <+: line := by
  unfold Text.substr
  rw [if_pos (Nat.zero_le _), List.drop_zero, List.prefix_iff_eq_take,
    Except.ok.injEq, eq_comm]

theorem keyword_eq {line : Text} {keyword other : Text × Option Nat}
    (isKeyword : keyword ∈ keywords) (isKeyword2 : other ∈ keywords)
    (begins : keyword.1 <+: line) (begins2 : other.1 <+: line) :
    keyword = other := by
  have apart : ∀ first ∈ keywords, ∀ second ∈ keywords,
      first.1 <+: second.1 → first = second := by decide
  rcases List.prefix_or_prefix_of_prefix begins begins2 with shorter | longer
  · exact apart _ isKeyword _ isKeyword2 shorter
  · exact (apart _ isKeyword2 _ isKeyword longer).symm

def dispatch (line : Text) (otherwise : Except TextFault Command) :
    List ((Text × Option Nat) × Except TextFault Command) →
      Except TextFault Command
  | [] => otherwise
  | (keyword, action) :: rest =>
      if Matches line keyword then action else dispatch line otherwise rest

theorem dispatch_unique {line : Text} {keyword : Text × Option Nat}
    {action otherwise : Except TextFault Command}
    {rules : List ((Text × Option Nat) × Except TextFault Command)}
    (isRule : (keyword, action) ∈ rules) (hit : Matches line keyword)
    (unique : ∀ rule ∈ rules, Matches line rule.1 → rule = (keyword, action)) :
    dispatch line otherwise rules = action := by
  induction rules with
  | nil => cases isRule
  | cons rule rest ih =>
      by_cases first : Matches line rule.1
      · have same := unique rule List.mem_cons_self first
        subst same
        exact if_pos first
      · have later : (keyword, action) ∈ rest := by
          rcases List.mem_cons.mp isRule with same | later
          · subst same
            exact absurd hit first
          · exact later
        have tail := ih later fun other member =>
          unique other (List.mem_cons_of_mem _ member)
        exact (if_neg first).trans tail

theorem dispatch_none {line : Text} {otherwise : Except TextFault Command}
    {rules : List ((Text × Option Nat) × Except TextFault Command)}
    (unknown : ∀ rule ∈ rules, ¬ Matches line rule.1) :
    dispatch line otherwise rules = otherwise := by
  induction rules with
  | nil => rfl
  | cons rule rest ih =>
      have tail := ih fun other member =>
        unknown other (List.mem_cons_of_mem _ member)
      exact (if_neg (unknown rule List.mem_cons_self)).trans tail

def rules (line : Text) :
    List ((Text × Option Nat) × Except TextFault Command) :=
  [(("addsource".toList, some 3), addSourceLine line),
    (("remsource".toList, some 1), removeSourceLine line),
    (("adddestination".toList, some 3), addDestinationLine line),
    (("remdestination".toList, some 2), removeDestinationLine line),
    (("remip".toList, some 1), removeIpAddressLine line),
    (("printm".toList, none), .ok .printManagement),
    (("printf".toList, none), .ok .printForwarding),
    (("printp".toList, none), .ok .printPortFd),
    (("help".toList, none), .ok .help), (("exit".toList, none), .ok .exit)]

theorem rules_keywords (line : Text) :
    (rules line).map Prod.fst = keywords := rfl

theorem ofLine_eq_dispatch {line : Text} (content : line ≠ []) :
    ofLine line = dispatch line (.ok .bad) (rules line) := by
  have begins (n : Nat) (word : Text) (size : word.length = n) :
      line.substr 0 (some n) = .ok word ↔ word <+: line := by
    subst size
    exact begins_iff line word
  unfold ofLine
  rw [if_neg content]
  simp only [begins 9 "addsource".toList rfl, begins 9 "remsource".toList rfl,
    begins 14 "adddestination".toList rfl,
    begins 14 "remdestination".toList rfl, begins 5 "remip".toList rfl,
    begins 6 "printm".toList rfl, begins 6 "printf".toList rfl,
    begins 6 "printp".toList rfl, begins 4 "help".toList rfl,
    begins 4 "exit".toList rfl, rules, dispatch, Matches, Option.mem_def,
    Option.some.injEq, forall_eq', reduceCtorEq, false_imp_iff, implies_true,
    and_true]

theorem ofLine_of_rule {line : Text} {keyword : Text × Option Nat}
    {action : Except TextFault Command}
    (isRule : (keyword, action) ∈ rules line) (hit : Matches line keyword) :
    ofLine line = action := by
  have isKeyword {rule : (Text × Option Nat) × Except TextFault Command}
      (member : rule ∈ rules line) : rule.1 ∈ keywords := by
    rw [← rules_keywords line]
    exact List.mem_map_of_mem member
  have content : line ≠ [] := by
    rintro rfl
    have named := isKeyword isRule
    have empty := List.prefix_nil.mp hit.1
    have nonempty : ∀ keyword ∈ keywords, keyword.1 ≠ [] := by decide
    exact nonempty _ named empty
  have distinct : ((rules line).map Prod.fst).Nodup := by
    rw [rules_keywords]
    decide
  rw [ofLine_eq_dispatch content]
  refine dispatch_unique isRule hit ?_
  intro rule member also
  have same : rule.1 = keyword :=
    keyword_eq (isKeyword member) (isKeyword isRule) also.1 hit.1
  exact List.inj_on_of_nodup_map distinct member isRule same

theorem ofLine_at {line : Text} (place : Nat) {keyword : Text × Option Nat}
    {action : Except TextFault Command}
    (isRule : (rules line)[place]? = some (keyword, action))
    (hit : Matches line keyword) : ofLine line = action :=
  ofLine_of_rule (List.mem_of_getElem? isRule) hit

theorem ofLine_bad {line : Text} (content : line ≠ [])
    (unknown : ∀ keyword ∈ keywords, ¬ Matches line keyword) :
    ofLine line = .ok .bad := by
  rw [ofLine_eq_dispatch content]
  apply dispatch_none
  intro rule member
  apply unknown
  rw [← rules_keywords line]
  exact List.mem_map_of_mem member

/-! What the branches read. -/

theorem ok_bind {α β : Type} (value : α) (next : α → Except TextFault β) :
    (Except.ok value >>= next) = next value := rfl

theorem atoi_one (text : Text) (command : Int → Command) :
    (do return command (← atoi text)) =
      if IntRange text.numeral then .ok (command text.numeral)
      else (.error .unrepresentable : Except TextFault Command) := by
  unfold atoi
  split <;> rfl

theorem atoi_two (text text2 : Text) (command : Int → Int → Command) :
    (do
      let first ← atoi text
      let second ← atoi text2
      return command first second) =
      if IntRange text.numeral ∧ IntRange text2.numeral then
        .ok (command text.numeral text2.numeral)
      else (.error .unrepresentable : Except TextFault Command) := by
  unfold atoi
  by_cases first : IntRange text.numeral
  · by_cases second : IntRange text2.numeral
    · rw [if_pos first, if_pos second, if_pos ⟨first, second⟩]
      rfl
    · rw [if_pos first, if_neg second, if_neg fun both => second both.2]
      rfl
  · have neither : ¬ (IntRange text.numeral ∧ IntRange text2.numeral) :=
      fun both => first both.1
    rw [if_neg first, if_neg neither]
    rfl

theorem checked_two {command : Command} {first second : Int}
    (numbers : command.numbers = [first, second]) :
    command.checked = if IntRange first ∧ IntRange second then .ok command
      else .error .unrepresentable := by
  unfold checked
  rw [numbers]
  simp

theorem addSourceLine_eq {c : Char} {workerType ip rest front port : Text}
    (spaced : ' ' ∉ workerType) (spaced2 : ' ' ∉ ip) (spaced3 : ' ' ∉ port)
    (split : ip ++ ' ' :: rest = front ++ ' ' :: port) :
    addSourceLine ("addsource".toList ++
        c :: (workerType ++ ' ' :: (ip ++ ' ' :: rest))) =
      (addSource workerType.numeral ip port.numeral).checked := by
  obtain ⟨first, behind⟩ := substr_find spaced (ip ++ ' ' :: rest)
  have second := (substr_find spaced2 rest).1
  have last : (ip ++ ' ' :: rest).substr
      (past ((ip ++ ' ' :: rest).findLastOf ' ')) none = .ok port := by
    rw [split, findLastOf_append front spaced3]
    exact substr_past front ' ' port
  have word : Text.substr ("addsource".toList ++
      c :: (workerType ++ ' ' :: (ip ++ ' ' :: rest))) 10 none = .ok _ :=
    substr_past "addsource".toList c _
  have read := atoi_two workerType port fun value => addSource value ip
  unfold addSourceLine
  simp only [word, first, behind, second, last, ok_bind]
  rw [checked_two rfl]
  exact read

theorem removeSourceLine_eq (c : Char) (srcId : Text) :
    removeSourceLine ("remsource".toList ++ c :: srcId) =
      (removeSource srcId.numeral).checked := by
  have word : Text.substr ("remsource".toList ++ c :: srcId) 10 none =
      .ok srcId := substr_past "remsource".toList c srcId
  unfold removeSourceLine
  simp only [word, ok_bind]
  rw [atoi_one srcId removeSource]
  simp [checked, numbers]

theorem addDestinationLine_eq {c : Char} {flow ip : Text}
    (spaced : ' ' ∉ flow) (spaced2 : ' ' ∉ ip) (port : Text) :
    addDestinationLine ("adddestination".toList ++
        c :: (flow ++ ' ' :: (ip ++ ' ' :: port))) =
      (addDestination flow.numeral ip port.numeral).checked := by
  obtain ⟨first, behind⟩ := substr_find spaced (ip ++ ' ' :: port)
  obtain ⟨second, last⟩ := substr_find spaced2 port
  have word : Text.substr ("adddestination".toList ++
      c :: (flow ++ ' ' :: (ip ++ ' ' :: port))) 15 none = .ok _ :=
    substr_past "adddestination".toList c _
  have read := atoi_two flow port fun value => addDestination value ip
  unfold addDestinationLine
  simp only [word, first, behind, second, last, ok_bind]
  rw [checked_two rfl]
  exact read

theorem removeDestinationLine_eq {c : Char} {flow : Text}
    (spaced : ' ' ∉ flow) (flow2 : Text) :
    removeDestinationLine ("remdestination".toList ++
        c :: (flow ++ ' ' :: flow2)) =
      (removeDestination flow.numeral flow2.numeral).checked := by
  obtain ⟨first, last⟩ := substr_find spaced flow2
  have word : Text.substr ("remdestination".toList ++
      c :: (flow ++ ' ' :: flow2)) 15 none = .ok _ :=
    substr_past "remdestination".toList c _
  have read := atoi_two flow flow2 removeDestination
  unfold removeDestinationLine
  simp only [word, first, last, ok_bind]
  rw [checked_two rfl]
  exact read

theorem count_of_not_mem {text : Text} {c : Char} (absent : c ∉ text) :
    count text c = 0 :=
  List.count_eq_zero_of_not_mem absent

theorem count_cons (c : Char) (text : Text) (token : Char) :
    count (c :: text) token = count text token + if c = token then 1 else 0 := by
  simp [count, List.count_cons]

theorem count_append (text text2 : Text) (token : Char) :
    count (text ++ text2) token = count text token + count text2 token :=
  List.count_append

theorem Reads.ofLine {line : Text} {command : Command}
    (reads : Reads line command) : ofLine line = command.checked := by
  have begins (word rest : Text) : word <+: word ++ rest := ⟨rest, rfl⟩
  have alone {line : Text} {word : Text} (hit : word <+: line) :
      Matches line (word, none) := ⟨hit, by simp⟩
  have spaces {line word : Text} {n : Nat} (hit : word <+: line)
      (counted : count line ' ' = n) : Matches line (word, some n) :=
    ⟨hit, by simpa using counted⟩
  cases reads with
  | nothing => rfl
  | addSource spaced spaced2 spaced3 =>
      refine (ofLine_at 0 rfl (spaces (begins _ _) ?_)).trans
        (addSourceLine_eq spaced spaced2 spaced3 rfl)
      simp [count_append, count_cons, count_of_not_mem, spaced, spaced2,
        spaced3]
  | @addSourceGlued c workerType ip other port glued spaced spaced2 spaced3
      spaced4 =>
      have split : ip ++ ' ' :: (other ++ ' ' :: port) =
          (ip ++ ' ' :: other) ++ ' ' :: port := by simp
      refine (ofLine_at 0 rfl (spaces (begins _ _) ?_)).trans
        (addSourceLine_eq spaced spaced2 spaced4 split)
      simp [count_append, count_cons, count_of_not_mem, glued, spaced, spaced2,
        spaced3, spaced4]
  | removeSource counted =>
      refine (ofLine_at 1 rfl (spaces (begins _ _) ?_)).trans
        (removeSourceLine_eq _ _)
      rw [count_append, counted]
      rfl
  | addDestination spaced spaced2 counted =>
      refine (ofLine_at 2 rfl (spaces (begins _ _) ?_)).trans
        (addDestinationLine_eq spaced spaced2 _)
      rw [count_cons] at counted
      simp [count_append, count_cons, count_of_not_mem, spaced, spaced2]
      omega
  | removeDestination spaced counted =>
      refine (ofLine_at 3 rfl (spaces (begins _ _) ?_)).trans
        (removeDestinationLine_eq spaced _)
      rw [count_cons] at counted
      simp [count_append, count_cons, count_of_not_mem, spaced]
      omega
  | removeIpAddress hit =>
      rw [ofLine_at 4 rfl hit]
      obtain ⟨⟨rest, rfl⟩, counted⟩ := hit
      cases rest with
      | nil => exact absurd (counted 1 rfl) (by decide)
      | cons c rest =>
          have word : Text.substr ("remip".toList ++ c :: rest) 6 none =
              .ok rest := substr_past "remip".toList c rest
          change (Text.substr ("remip".toList ++ c :: rest) 6 none >>= _) = _
          rw [word]
          rfl
  | printManagement => exact ofLine_at 5 rfl (alone (begins _ _))
  | printForwarding => exact ofLine_at 6 rfl (alone (begins _ _))
  | printPortFd => exact ofLine_at 7 rfl (alone (begins _ _))
  | help => exact ofLine_at 8 rfl (alone (begins _ _))
  | exit => exact ofLine_at 9 rfl (alone (begins _ _))
  | bad content unknown => exact ofLine_bad content unknown

/-! Every line reads as something. -/

theorem exists_field {text : Text} {n : Nat} (counted : count text ' ' = n + 1) :
    ∃ first rest, ' ' ∉ first ∧ text = first ++ ' ' :: rest ∧
      count rest ' ' = n := by
  have member : ' ' ∈ text := by
    by_contra absent
    rw [count_of_not_mem absent] at counted
    omega
  obtain ⟨first, rest, absent, rfl⟩ := exists_split member
  rw [count_append, count_cons, count_of_not_mem absent, if_pos rfl] at counted
  exact ⟨first, rest, absent, rfl, by omega⟩

/-- The next field behind a character that may be a space itself. -/
theorem exists_field_behind {c : Char} {text : Text} {n : Nat}
    (counted : count (c :: text) ' ' = n + 2) :
    ∃ first rest, ' ' ∉ first ∧ text = first ++ ' ' :: rest ∧
      count (c :: rest) ' ' = n + 1 := by
  rw [count_cons] at counted
  by_cases blank : c = ' '
  · rw [if_pos blank] at counted
    obtain ⟨first, rest, spaced, split, left⟩ :=
      exists_field (show count text ' ' = n + 1 by omega)
    refine ⟨first, rest, spaced, split, ?_⟩
    rw [count_cons, if_pos blank, left]
  · rw [if_neg blank] at counted
    obtain ⟨first, rest, spaced, split, left⟩ :=
      exists_field (show count text ' ' = n + 1 + 1 by omega)
    refine ⟨first, rest, spaced, split, ?_⟩
    rw [count_cons, if_neg blank, left]

theorem unspaced {text : Text} (counted : count text ' ' = 0) : ' ' ∉ text := by
  intro member
  exact absurd counted (Nat.ne_of_gt (List.count_pos_iff.mpr member))

theorem Matches.exists_rest {line word : Text} {n : Nat}
    (hit : Matches line (word, some (n + 1))) (noSpace : count word ' ' = 0) :
    ∃ c rest, line = word ++ c :: rest ∧ count (c :: rest) ' ' = n + 1 := by
  obtain ⟨⟨rest, rfl⟩, spaces⟩ := hit
  have counted := spaces _ rfl
  change count (word ++ rest) ' ' = n + 1 at counted
  rw [count_append, noSpace, Nat.zero_add] at counted
  cases rest with
  | nil => cases counted
  | cons c rest => exact ⟨c, rest, rfl, counted⟩

theorem exists_reads (line : Text) : ∃ command, Reads line command := by
  by_cases content : line = []
  · subst content
    exact ⟨_, .nothing⟩
  by_cases known : ∃ keyword ∈ keywords, Matches line keyword
  · obtain ⟨keyword, isKeyword, hit⟩ := known
    have begins {word : Text} {spaces : Option Nat}
        (hit : Matches line (word, spaces)) : ∃ rest, word ++ rest = line := hit.1
    simp only [keywords, List.mem_cons, List.not_mem_nil, or_false] at isKeyword
    rcases isKeyword with rfl | rfl | rfl | rfl | rfl | rfl | rfl | rfl | rfl |
      rfl
    · obtain ⟨c, rest, rfl, counted⟩ := hit.exists_rest rfl
      obtain ⟨workerType, rest2, spaced, rfl, counted2⟩ :=
        exists_field_behind counted
      obtain ⟨ip, rest3, spaced2, rfl, counted3⟩ := exists_field_behind counted2
      rw [count_cons] at counted3
      by_cases blank : c = ' '
      · subst blank
        rw [if_pos rfl] at counted3
        exact ⟨_, .addSource spaced spaced2 (unspaced (by omega))⟩
      · rw [if_neg blank] at counted3
        obtain ⟨other, port, spaced3, rfl, left⟩ := exists_field counted3
        exact ⟨_, .addSourceGlued blank spaced spaced2 spaced3 (unspaced left)⟩
    · obtain ⟨c, rest, rfl, counted⟩ := hit.exists_rest rfl
      exact ⟨_, .removeSource counted⟩
    · obtain ⟨c, rest, rfl, counted⟩ := hit.exists_rest rfl
      obtain ⟨flow, rest2, spaced, rfl, counted2⟩ := exists_field_behind counted
      obtain ⟨ip, port, spaced2, rfl, counted3⟩ := exists_field_behind counted2
      exact ⟨_, .addDestination spaced spaced2 counted3⟩
    · obtain ⟨c, rest, rfl, counted⟩ := hit.exists_rest rfl
      obtain ⟨flow, flow2, spaced, rfl, counted2⟩ := exists_field_behind counted
      exact ⟨_, .removeDestination spaced counted2⟩
    · exact ⟨_, .removeIpAddress hit⟩
    · obtain ⟨rest, rfl⟩ := begins hit
      exact ⟨_, .printManagement⟩
    · obtain ⟨rest, rfl⟩ := begins hit
      exact ⟨_, .printForwarding⟩
    · obtain ⟨rest, rfl⟩ := begins hit
      exact ⟨_, .printPortFd⟩
    · obtain ⟨rest, rfl⟩ := begins hit
      exact ⟨_, .help⟩
    · obtain ⟨rest, rfl⟩ := begins hit
      exact ⟨_, .exit⟩
  · refine ⟨_, .bad content ?_⟩
    intro keyword isKeyword hit
    exact known ⟨keyword, isKeyword, hit⟩

theorem Reads.eq_of_ofLine {line : Text} {command other : Command}
    (reads : Reads line command) (read : Command.ofLine line = .ok other) :
    other = command := by
  rw [reads.ofLine, checked] at read
  split at read
  · exact (Except.ok.inj read).symm
  · cases read

/-- Every line reads as a command, and carrying it out either makes the call
of this command or stops at a number that no `int` holds; `substr` never
throws. -/
theorem line_reads (line : Text) :
    (∃ command, Reads line command) ∧
      ∀ command, Reads line command → ofLine line = command.checked :=
  ⟨exists_reads line, fun _ reads => reads.ofLine⟩

/-- A line without the space behind its keyword still names a source, and its
address may be followed by a field that nothing reads. -/
theorem line_reads_glued :
    ofLine "addsource:1 10.0.0.1 other 5000".toList =
      .ok (.addSource 1 "10.0.0.1".toList 5000) := by
  have reads := @Reads.addSourceGlued ':' "1".toList "10.0.0.1".toList
    "other".toList "5000".toList (by decide) (by decide) (by decide)
    (by decide) (by decide)
  exact ((line_reads _).2 _ reads).trans (by decide)

/-! Lines for commands. -/

/-- The line of the help text for a command. -/
def render : Command → Text
  | .addSource workerType ip port =>
      "addsource".toList ++
        ' ' :: (decimal workerType ++ ' ' :: (ip ++ ' ' :: decimal port))
  | .removeSource srcId => "remsource".toList ++ ' ' :: decimal srcId
  | .addDestination flow ip port =>
      "adddestination".toList ++
        ' ' :: (decimal flow ++ ' ' :: (ip ++ ' ' :: decimal port))
  | .removeDestination flow flow2 =>
      "remdestination".toList ++ ' ' :: (decimal flow ++ ' ' :: decimal flow2)
  | .removeIpAddress => "remip ".toList
  | .printManagement => "printm".toList
  | .printForwarding => "printf".toList
  | .printPortFd => "printp".toList
  | .help => "help".toList
  | .exit => "exit".toList
  | .bad => "?".toList
  | .nothing => []

def Unspaced : Command → Prop
  | .addSource _ ip _ | .addDestination _ ip _ => ' ' ∉ ip
  | _ => True

instance (command : Command) : Decidable command.Unspaced :=
  match command with
  | .addSource _ _ _ | .addDestination _ _ _ =>
      inferInstanceAs (Decidable (¬ _))
  | .removeSource _ | .removeDestination _ _ | .removeIpAddress
  | .printManagement | .printForwarding | .printPortFd | .help | .exit
  | .bad | .nothing => isTrue trivial

theorem numeral_decimal_nil (value : Int) : (decimal value).numeral = value := by
  have read : (decimal value ++ []).numeral = value :=
    numeral_decimal value (by simp)
  rwa [List.append_nil] at read

theorem decimal_unspaced (value : Int) : ' ' ∉ decimal value :=
  decimal_not_mem rfl (by decide) value

theorem decimal_count (value : Int) :
    count (' ' :: decimal value) ' ' = 1 := by
  rw [count_cons, count_of_not_mem (decimal_unspaced value)]
  rfl

theorem reads_render {command : Command} (unspaced : command.Unspaced) :
    Reads command.render command := by
  cases command with
  | addSource workerType ip port =>
      have reads := Reads.addSource (decimal_unspaced workerType) unspaced
        (decimal_unspaced port)
      rwa [numeral_decimal_nil, numeral_decimal_nil] at reads
  | removeSource srcId =>
      have reads := Reads.removeSource (decimal_count srcId)
      rwa [numeral_decimal_nil] at reads
  | addDestination flow ip port =>
      have reads := Reads.addDestination (decimal_unspaced flow) unspaced
        (decimal_count port)
      rwa [numeral_decimal_nil, numeral_decimal_nil] at reads
  | removeDestination flow flow2 =>
      have reads := Reads.removeDestination (decimal_unspaced flow)
        (decimal_count flow2)
      rwa [numeral_decimal_nil, numeral_decimal_nil] at reads
  | removeIpAddress => exact .removeIpAddress (by decide)
  | printManagement => exact .printManagement
  | printForwarding => exact .printForwarding
  | printPortFd => exact .printPortFd
  | help => exact .help
  | exit => exact .exit
  | bad => exact .bad (by decide) (by decide)
  | nothing => exact .nothing

/-- Every command is given by the line that the help text has for it. -/
theorem ofLine_render {command : Command} (unspaced : command.Unspaced)
    (range : ∀ number ∈ command.numbers, IntRange number) :
    ofLine command.render = .ok command := by
  rw [(reads_render unspaced).ofLine]
  exact if_pos range

theorem ofLine_render_addSource :
    ofLine (render (.addSource 4 "10.0.0.1".toList 5000)) =
      .ok (.addSource 4 "10.0.0.1".toList 5000) :=
  ofLine_render (by decide) (by decide)

end Command

end StrManager
