import QueryAssembly.Proofs.Json.Scanning
import QueryAssembly.Proofs.Json.Scripts

/-!
# Which texts are read as a script

At every place the builder can tell which tokens it has taken: those of the containers that are
open, as far as they go.  So a script that is sound in form and leaves nothing behind has taken
exactly its own tokens, and the texts that are read as a script are the texts that it is written as
(`Script.writtenAs_iff`).
-/

namespace QueryAssembly.Json

namespace Token

/-- What stands before another group of tokens. -/
def separator : List (List Token) → List Token
  | [] => []
  | _ :: _ => [.comma]

/-- Groups of tokens behind an opening bracket. -/
def begun (opening : Token) : List (List Token) → List Token
  | [] => [opening]
  | group :: rest => opening :: group ++ following rest

theorem following_append (groups : List (List Token)) (group : List Token) :
    following (groups ++ [group]) = following groups ++ .comma :: group := by
  induction groups with
  | nil => simp [following]
  | cons first rest ih => simp [following, ih]

theorem begun_append (opening : Token) (groups : List (List Token)) (group : List Token) :
    begun opening (groups ++ [group]) = begun opening groups ++ separator groups ++ group := by
  cases groups with
  | nil => simp [begun, separator, following]
  | cons first rest => simp [begun, separator, following_append]

theorem enclosed_eq_begun (opening closing : Token) (groups : List (List Token)) :
    enclosed opening closing groups = begun opening groups ++ [closing] := by
  cases groups with
  | nil => rfl
  | cons first rest => simp [enclosed, begun]

theorem separator_of_ne_nil {groups : List (List Token)} (some_group : groups ≠ []) :
    separator groups = [.comma] := by
  cases groups with
  | nil => exact absurd rfl some_group
  | cons group rest => rfl

theorem isBroken_of_mem_following {groups : List (List Token)}
    (sound : ∀ group ∈ groups, ∀ token ∈ group, token.isBroken = false) {token : Token}
    (found : token ∈ following groups) : token.isBroken = false := by
  induction groups with
  | nil => cases found
  | cons group rest ih =>
    rcases List.mem_cons.mp found with rfl | found
    · rfl
    rcases List.mem_append.mp found with found | found
    · exact sound group List.mem_cons_self token found
    · exact ih (fun other later => sound other (List.mem_cons_of_mem _ later)) found

theorem isBroken_of_mem_enclosed {opening closing : Token} {groups : List (List Token)}
    (opens : opening.isBroken = false) (closes : closing.isBroken = false)
    (sound : ∀ group ∈ groups, ∀ token ∈ group, token.isBroken = false) {token : Token}
    (found : token ∈ enclosed opening closing groups) : token.isBroken = false := by
  rw [enclosed_eq_begun] at found
  rcases List.mem_append.mp found with found | found
  · cases groups with
    | nil => rwa [List.mem_singleton.mp found]
    | cons group rest =>
      rcases List.mem_cons.mp found with rfl | found
      · exact opens
      rcases List.mem_append.mp found with found | found
      · exact sound group List.mem_cons_self token found
      · exact isBroken_of_mem_following
          (fun other later => sound other (List.mem_cons_of_mem _ later)) found
  · rwa [List.mem_singleton.mp found]

end Token

namespace Script

theorem itemTokens_eq_map (items : List Script) : itemTokens items = items.map tokenList := by
  induction items with
  | nil => rfl
  | cons item rest ih => rw [itemTokens, ih, List.map_cons]

theorem memberTokens_eq_map (members : List (Except Fault String × Script)) :
    memberTokens members =
      members.map fun member => .string member.1 :: .colon :: member.2.tokenList := by
  induction members with
  | nil => rfl
  | cons member rest ih =>
    obtain ⟨key, value⟩ := member
    rw [memberTokens, ih, List.map_cons]

mutual

theorem isBroken_of_mem_tokenList : (script : Script) → (token : Token) →
    token ∈ script.tokenList → token.isBroken = false
  | .null, _, found | .bool _, _, found | .number _, _, found | .string _, _, found => by
    rw [List.mem_singleton.mp found]
    rfl
  | .list items _, _, found =>
    Token.isBroken_of_mem_enclosed rfl rfl (isBroken_of_mem_itemTokens items) found
  | .object members _, _, found =>
    Token.isBroken_of_mem_enclosed rfl rfl (isBroken_of_mem_memberTokens members) found
  | .damaged _, _, found => absurd found List.not_mem_nil

theorem isBroken_of_mem_itemTokens : (items : List Script) → (group : List Token) →
    group ∈ itemTokens items → (token : Token) → token ∈ group → token.isBroken = false
  | [], _, found, _, _ => absurd found List.not_mem_nil
  | item :: rest, group, found, token, inside => by
    rcases List.mem_cons.mp found with rfl | found
    · exact isBroken_of_mem_tokenList item token inside
    · exact isBroken_of_mem_itemTokens rest group found token inside

theorem isBroken_of_mem_memberTokens : (members : List (Except Fault String × Script)) →
    (group : List Token) → group ∈ memberTokens members → (token : Token) → token ∈ group →
      token.isBroken = false
  | [], _, found, _, _ => absurd found List.not_mem_nil
  | (key, value) :: rest, group, found, token, inside => by
    rcases List.mem_cons.mp found with rfl | found
    · rcases List.mem_cons.mp inside with rfl | inside
      · rfl
      rcases List.mem_cons.mp inside with rfl | inside
      · rfl
      exact isBroken_of_mem_tokenList value token inside
    · exact isBroken_of_mem_memberTokens rest group found token inside

end

/-! ### Tokens taken so far -/

/-- The beginning of a list as far as its items go; the latest item stands first. -/
def begunList (items : List Script) : List Token :=
  Token.begun .openList (itemTokens items.reverse)

/-- The beginning of an object as far as its members go; the latest member stands first. -/
def begunObject (members : Backward) : List Token :=
  Token.begun .openObject (memberTokens members.reverse)

/-- The tokens of an open container. -/
def Frame.tokens : Frame → List Token
  | .item before => begunList before ++ Token.separator (itemTokens before.reverse)
  | .member before key =>
    begunObject before ++ Token.separator (memberTokens before.reverse) ++ [.string key, .colon]

/-- The tokens of all open containers, the outermost first. -/
def outerTokens : List Frame → List Token
  | [] => []
  | frame :: outer => outerTokens outer ++ frame.tokens

/-- The tokens of the innermost container up to a place. -/
def Place.tokens : Place → List Token
  | .value => []
  | .firstItem => begunList []
  | .afterItem items => begunList items
  | .nextItem items => begunList items ++ [.comma]
  | .firstKey => begunObject []
  | .afterKey members key =>
    begunObject members ++ Token.separator (memberTokens members.reverse) ++ [.string key]
  | .afterMember members => begunObject members
  | .nextKey members => begunObject members ++ [.comma]

/-- A place after an item or a member has one before it. -/
def Place.Reached : Place → Prop
  | .afterItem items | .nextItem items => items ≠ []
  | .afterMember members | .nextKey members => members ≠ []
  | _ => True

/-- The builder has taken the given tokens; a script with a fault says nothing about them. -/
def Progress.Took (tokens : List Token) : Progress → Prop
  | .going place frames => place.Reached ∧ outerTokens frames ++ place.tokens = tokens
  | .finished script => script.skipFault = none → script.tokenList = tokens

theorem begunList_cons (item : Script) (before : List Script) :
    begunList (item :: before) =
      begunList before ++ Token.separator (itemTokens before.reverse) ++ item.tokenList := by
  simp only [begunList, itemTokens_eq_map, List.reverse_cons, List.map_append, List.map_cons,
    List.map_nil, Token.begun_append]

theorem begunObject_cons (key : Except Fault String) (value : Script) (before : Backward) :
    begunObject ((key, value) :: before) =
      begunObject before ++ Token.separator (memberTokens before.reverse) ++
        .string key :: .colon :: value.tokenList := by
  simp only [begunObject, memberTokens_eq_map, List.reverse_cons, List.map_append, List.map_cons,
    List.map_nil, Token.begun_append]

theorem separator_itemTokens {items : List Script} (some_item : items ≠ []) :
    Token.separator (itemTokens items.reverse) = [.comma] := by
  apply Token.separator_of_ne_nil
  simpa [itemTokens_eq_map] using some_item

theorem separator_memberTokens {members : Backward} (some_member : members ≠ []) :
    Token.separator (memberTokens members.reverse) = [.comma] := by
  apply Token.separator_of_ne_nil
  simpa [memberTokens_eq_map] using some_member

theorem skipFault_list_ne_none {items : List Script} {stop : ListEnd}
    (open_ended : stop ≠ .closed) : (Script.list items stop).skipFault ≠ none :=
  fun sound => open_ended (skipFault_list_eq_none_iff.mp sound).2

theorem skipFault_object_ne_none {members : List (Except Fault String × Script)}
    {stop : ObjectEnd} (open_ended : stop ≠ .closed) :
    (Script.object members stop).skipFault ≠ none :=
  fun sound => open_ended (skipFault_object_eq_none_iff.mp sound).2

theorem skipFault_damaged_ne_none (damage : Damage) :
    (Script.damaged damage).skipFault ≠ none :=
  Option.some_ne_none damage.skipFault

theorem skipFault_abandon {value : Script} (faulty : value.skipFault ≠ none)
    (frames : List Frame) : (abandon value frames).skipFault ≠ none := by
  induction frames generalizing value with
  | nil => exact faulty
  | cons frame outer ih =>
    cases frame with
    | item before => exact ih (skipFault_list_ne_none nofun)
    | member before key => exact ih (skipFault_object_ne_none nofun)

/-- A text that goes wrong says nothing about the tokens taken. -/
theorem took_abandon {value : Script} (faulty : value.skipFault ≠ none) (frames : List Frame)
    (tokens : List Token) : (Progress.finished (abandon value frames)).Took tokens :=
  fun sound => absurd sound (skipFault_abandon faulty frames)

theorem took_resume (value : Script) (frames : List Frame) :
    (resume value frames).Took (outerTokens frames ++ value.tokenList) := by
  match frames with
  | [] => exact fun _ => rfl
  | .item before :: outer =>
    refine ⟨List.cons_ne_nil _ _, ?_⟩
    simp only [Place.tokens, begunList_cons, outerTokens, Frame.tokens, List.append_assoc]
  | .member before key :: outer =>
    refine ⟨List.cons_ne_nil _ _, ?_⟩
    simp only [Place.tokens, begunObject_cons, outerTokens, Frame.tokens, List.append_assoc,
      List.cons_append, List.nil_append]

theorem took_stepValue (frames : List Frame) (token : Token) :
    (stepValue frames token).Took (outerTokens frames ++ [token]) := by
  cases token with
  | openList | openObject => exact ⟨trivial, rfl⟩
  | null => exact took_resume .null frames
  | bool value => exact took_resume (.bool value) frames
  | number value => exact took_resume (.number value) frames
  | string value => exact took_resume (.string value) frames
  | brokenString | broken | closeList | closeObject | comma | colon =>
    exact took_abandon (skipFault_damaged_ne_none _) frames _

theorem took_stepKey (members : Backward) (frames : List Frame) (token : Token) :
    (stepKey members frames token).Took
      (outerTokens frames ++
        (begunObject members ++ Token.separator (memberTokens members.reverse) ++ [token])) := by
  cases token with
  | string key => exact ⟨trivial, rfl⟩
  | brokenString read skipped =>
    exact took_abandon (@skipFault_object_ne_none _ (.brokenKey read skipped) nofun) frames _
  | _ => exact took_abandon (@skipFault_object_ne_none _ .notString nofun) frames _

theorem tokenList_list (items : List Script) (stop : ListEnd) :
    (Script.list items.reverse stop).tokenList = begunList items ++ [.closeList] :=
  Token.enclosed_eq_begun ..

theorem tokenList_object (members : Backward) (stop : ObjectEnd) :
    (Script.object members.reverse stop).tokenList = begunObject members ++ [.closeObject] :=
  Token.enclosed_eq_begun ..

theorem step_firstKey (frames : List Frame) (token : Token) (no_end : token ≠ .closeObject) :
    step .firstKey frames token = stepKey [] frames token := by
  cases token with
  | closeObject => exact absurd rfl no_end
  | _ => rfl

theorem step_nextKey (members : Backward) (frames : List Frame) (token : Token)
    (no_end : token ≠ .closeObject) :
    step (.nextKey members) frames token = stepKey members frames token := by
  cases token with
  | closeObject => exact absurd rfl no_end
  | _ => rfl

/-- One step takes one token. -/
theorem took_step {place : Place} (reached : place.Reached) (frames : List Frame)
    (token : Token) :
    (step place frames token).Took (outerTokens frames ++ (place.tokens ++ [token])) := by
  cases place with
  | value => exact took_stepValue frames token
  | firstItem =>
    by_cases last : token = .closeList
    · subst last
      exact took_resume (.list [] .closed) frames
    · have taken := took_stepValue (.item [] :: frames) token
      rw [outerTokens, List.append_assoc] at taken
      rw [step_firstItem frames token last]
      exact taken
  | afterItem items =>
    cases token with
    | comma => exact ⟨reached, rfl⟩
    | closeList =>
      have taken := took_resume (.list items.reverse .closed) frames
      rw [tokenList_list] at taken
      exact taken
    | _ => exact took_abandon (@skipFault_list_ne_none _ .missingComma nofun) frames _
  | nextItem items =>
    by_cases last : token = .closeList
    · subst last
      exact took_abandon (@skipFault_list_ne_none _ .trailingComma nofun) frames _
    · have taken := took_stepValue (.item items :: frames) token
      rw [outerTokens, Frame.tokens, separator_itemTokens reached, List.append_assoc] at taken
      rw [step_nextItem items frames token last]
      exact taken
  | firstKey =>
    by_cases last : token = .closeObject
    · subst last
      exact took_resume (.object [] .closed) frames
    · rw [step_firstKey frames token last]
      exact took_stepKey [] frames token
  | afterKey members key =>
    cases token with
    | colon =>
      refine ⟨trivial, ?_⟩
      simp only [outerTokens, Frame.tokens, Place.tokens, List.append_assoc, List.append_nil,
        List.cons_append, List.nil_append]
    | _ => exact took_abandon (skipFault_damaged_ne_none _) (.member members key :: frames) _
  | afterMember members =>
    cases token with
    | comma => exact ⟨reached, rfl⟩
    | closeObject =>
      have taken := took_resume (.object members.reverse .closed) frames
      rw [tokenList_object] at taken
      exact taken
    | _ => exact took_abandon (@skipFault_object_ne_none _ .missingComma nofun) frames _
  | nextKey members =>
    by_cases last : token = .closeObject
    · subst last
      exact took_abandon (@skipFault_object_ne_none _ .trailingComma nofun) frames _
    · have taken := took_stepKey members frames token
      rw [separator_memberTokens reached] at taken
      rw [step_nextKey members frames token last]
      exact taken

theorem skipFault_atEnd (frames : List Frame) (place : Place) :
    (atEnd frames place).skipFault ≠ none := by
  cases place with
  | value => exact skipFault_abandon (skipFault_damaged_ne_none _) frames
  | firstItem | afterItem =>
    exact skipFault_abandon (@skipFault_list_ne_none _ .endOfText nofun) frames
  | nextItem => exact skipFault_abandon (@skipFault_list_ne_none _ .endAfterComma nofun) frames
  | firstKey | afterMember =>
    exact skipFault_abandon (@skipFault_object_ne_none _ .endOfText nofun) frames
  | afterKey members key =>
    exact skipFault_abandon (skipFault_damaged_ne_none _) (.member members key :: frames)
  | nextKey => exact skipFault_abandon (@skipFault_object_ne_none _ .endAfterComma nofun) frames

/-- A script that is sound in form has taken its own tokens. -/
theorem tokens_of_build {place : Place} (reached : place.Reached) {frames : List Frame}
    {tokens rest : List Token} {script : Script}
    (built : build place frames tokens = (script, rest)) (sound : script.skipFault = none) :
    script.tokenList ++ rest = outerTokens frames ++ (place.tokens ++ tokens) := by
  induction tokens generalizing place frames with
  | nil =>
    cases built
    exact absurd sound (skipFault_atEnd frames place)
  | cons token further ih =>
    have taken := took_step reached frames token
    rw [build_cons] at built
    cases progress : step place frames token with
    | going next outer =>
      rw [progress] at built taken
      obtain ⟨next_reached, same⟩ := taken
      have whole := ih next_reached built
      rw [← List.append_assoc, same] at whole
      simpa using whole
    | finished other =>
      rw [progress] at built taken
      cases built
      rw [taken sound]
      simp

/-- The texts that are read as a script sound in form, with nothing left behind, are the texts that
the script is written as. -/
theorem writtenAs_iff {script : Script} {text : String} :
    script.WrittenAs text ↔ ofText text = (script, []) ∧ script.skipFault = none := by
  constructor
  · intro written
    exact ⟨written.ofText_eq, written.sound⟩
  · rintro ⟨read, sound⟩
    have taken : script.tokenList = tokensAfter 0 text.toList := by
      have whole := @tokens_of_build .value trivial [] _ _ _ read sound
      rw [List.append_nil] at whole
      exact whole
    have unbroken (token : Token) (found : token ∈ tokensAfter 0 text.toList) :
        token.isBroken = false := by
      rw [← taken] at found
      exact isBroken_of_mem_tokenList script token found
    refine ⟨sound, ?_⟩
    rw [taken]
    exact Token.spaced_tokensAfter unbroken

end Script

end QueryAssembly.Json
