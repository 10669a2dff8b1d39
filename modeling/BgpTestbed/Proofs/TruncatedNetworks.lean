import BgpTestbed.Proofs.Json.Truncation
import BgpTestbed.Proofs.RoundTrip

/-!
# Networks cut short

No front of the text of a network is read as a network, since a network ends
with the brace that closes it.  In what the program writes itself, the end of
the text is what is found wrong with every front, wherever it is cut.
-/

namespace BgpTestbed

open Files
open Json
open Json.Reader
open Json.Codec

theorem Action.noticesCuts (action : Action) : codec.NoticesCutsOf action := by
  have reads := (codec_spells action).reads _ (textOf_quotedText action.text)
  refine noticesCutsOf_of_text rfl reads ?_
  intro space cut blank isCut
  refine nextToken_failsAtEnd blank rfl isCut (failsAtEnd_fail rfl _) ?_
  intro inner isInner
  exact (text_failsAtEnd action.text isInner).bind _

theorem Address.noticesCuts (address : Address) :
    codec.NoticesCutsOf address := by
  have reads := (codec_spells address).reads _ (textOf_quotedText address.text)
  refine noticesCutsOf_of_text rfl reads ?_
  intro space cut blank isCut
  exact (readText_failsAtEnd _ address.text blank isCut).bind _

/-- A symbolic text that reads as a subnet is read, too. -/
theorem Prefix.noticesCuts (declared : Prefix) :
    codec.NoticesCutsOf declared := by
  have reads := codec_reads (textOf_quotedText declared.text)
  refine noticesCutsOf_of_text rfl reads ?_
  intro space cut blank isCut
  exact (readText_failsAtEnd _ declared.text blank isCut).bind _

private theorem texts_noticeCuts (values : List String) :
    (Codec.list .text).NoticesCutsOf values :=
  list_noticesCuts fun value _ => text_noticesCuts value

private theorem optionalText_noticesCuts (value : Option String) :
    (Codec.optional .text).NoticesCutsOf value := by
  apply optional_noticesCuts ?_ text_noticesCuts
  · intro held layout depth
    change (layout.text depth (.text held)).head? ≠ some 'n'
    rw [layout.text_text]
    exact (by decide : some '"' ≠ some 'n')
  · exact .inl ⟨.endOfValue, rfl, rfl⟩

private theorem optionalWord_noticesCuts (value : Option UInt32) :
    (Codec.optional .word).NoticesCutsOf value := by
  apply optional_noticesCuts ?_ word_noticesCuts
  · intro held layout depth
    change (layout.text depth (.number held.toNat)).head? ≠ some 'n'
    rw [layout.text_number]
    exact head?_toDigits_ne rfl held.toNat
  · exact .inl ⟨.endOfValue, rfl, rfl⟩

theorem PrefixList.noticesCuts (list : PrefixList) :
    codec.NoticesCutsOf list := by
  refine record_noticesCuts ?_ (by decide) _
  exact ⟨text_noticesCuts _, list.action.noticesCuts, text_noticesCuts _,
    trivial⟩

theorem CommunityList.noticesCuts (list : CommunityList) :
    codec.NoticesCutsOf list := by
  refine record_noticesCuts ?_ (by decide) _
  exact ⟨text_noticesCuts _, list.action.noticesCuts, texts_noticeCuts _,
    trivial⟩

theorem AsPathList.noticesCuts (list : AsPathList) :
    codec.NoticesCutsOf list := by
  refine record_noticesCuts ?_ (by decide) _
  exact ⟨text_noticesCuts _, list.action.noticesCuts, text_noticesCuts _,
    trivial⟩

theorem PolicyList.noticesCuts (policy : PolicyList) :
    codec.NoticesCutsOf policy := by
  refine record_noticesCuts ?_ (by decide) _
  exact ⟨text_noticesCuts _, texts_noticeCuts _, texts_noticeCuts _,
    texts_noticeCuts _, trivial⟩

theorem RouteMap.noticesCuts (entry : RouteMap) :
    codec.NoticesCutsOf entry := by
  refine record_noticesCuts ?_ (by decide) _
  exact ⟨text_noticesCuts _, word_noticesCuts _, text_noticesCuts _,
    optionalWord_noticesCuts _, optionalText_noticesCuts _,
    texts_noticeCuts _, trivial⟩

theorem Session.noticesCuts (session : Session) :
    codec.NoticesCutsOf session := by
  refine record_noticesCuts ?_ (by decide) _
  exact ⟨text_noticesCuts _, session.peerAddress.noticesCuts,
    session.localAddress.noticesCuts, optionalText_noticesCuts _,
    optionalText_noticesCuts _, trivial⟩

theorem Router.noticesCuts (router : Router) : codec.NoticesCutsOf router := by
  refine record_noticesCuts ?_ (by decide) _
  exact ⟨word_noticesCuts _, text_noticesCuts _,
    list_noticesCuts fun declared _ => declared.noticesCuts,
    list_noticesCuts fun list _ => list.noticesCuts,
    list_noticesCuts fun list _ => list.noticesCuts,
    list_noticesCuts fun list _ => list.noticesCuts,
    list_noticesCuts fun entry _ => entry.noticesCuts,
    list_noticesCuts fun policy _ => policy.noticesCuts,
    list_noticesCuts fun session _ => session.noticesCuts, trivial⟩

namespace Network

theorem read_local : codec.read.LocalFor fun _ => True := by
  have entry_local (network : Network) (key : String) :
      (readEntry network key).Local :=
    Local.bind colon_local fun _ =>
      Local.bind Router.read_local.local fun _ => localFor_pure _ _
  refine localFor_behind nextToken_local (fun first => ?_) rfl
  split
  · exact localFor_fail _ _
  · exact readMembers_local entry_local _
  · exact mismatch_local _ _ _

/-- The written entries lead from any network to some network. -/
private theorem exists_leadsWhole (layout : Layout) (depth : Nat)
    (entries : List (String × Router)) (start : Network) :
    ∃ last, LeadsWhole layout depth readEntry start
      (entries.map fun (key, router) => (key, Router.codec.write router))
      last := by
  induction entries generalizing start with
  | nil => exact ⟨start, .done start⟩
  | cons entry later ih =>
      obtain ⟨key, router⟩ := entry
      obtain ⟨read, takes⟩ := TakesMember.of_colon
        (layout.namedMember depth (key, Router.codec.write router)).toMember
        (router.noticesCuts layout depth) (start.insert key)
      obtain ⟨last, whole⟩ := ih (start.insert key read)
      exact ⟨last, .next takes whole⟩

/-- In a cut of a written network, the end of the text is found wrong. -/
theorem read_failsAtEnd (network : Network) (layout : Layout)
    {cut : List Char}
    (isCut : Cut cut (layout.text 0 (codec.write network))) :
    codec.read.FailsAtEnd cut := by
  obtain ⟨last, whole⟩ := exists_leadsWhole layout 1 network.entries
    NameMap.empty
  have enclosed := layout.isEnclosed_object 0
    (network.entries.map fun (key, router) =>
      (key, Router.codec.write router))
  obtain ⟨inner, isText⟩ := enclosed.eq_cons
  have isCut : Cut cut ([] ++ '\x7b' :: inner) := by
    rw [← isText]
    exact isCut
  rw [isText] at enclosed
  exact nextToken_failsAtEnd isBlank_nil rfl isCut (failsAtEnd_fail rfl _)
    fun _ isBehind => readMembers_failsAtEnd whole enclosed isBehind

/-- The text is rejected for the fault, and so is every file that holds it. -/
def RejectedFor (text : String) (fault : Fault) : Prop :=
  codec.decode text = .error fault ∧
    ∀ (files : FileSystem) (path : String),
      files.read path = .ok text.toUTF8 →
        runOn files (readNetwork path) = (.error (.json fault), files)

theorem rejectedFor_of_decode {text : String} {fault : Fault}
    (decodes : codec.decode text = .error fault) : RejectedFor text fault := by
  refine ⟨decodes, ?_⟩
  intro files path holds
  rw [runOn_readNetwork, readAt, FileSystem.readText_eq_ok holds]
  simp only [decodes]

private theorem cut_of_append {text front rest : String}
    (isText : text = front ++ rest) (notEmpty : rest ≠ "") :
    Cut front.toList text.toList := by
  refine ⟨rest.toList, ?_, ?_⟩
  · intro isEmpty
    exact notEmpty (String.toList_eq_nil_iff.mp isEmpty)
  · rw [isText, String.toList_append]

/-- Of a text that is read as a network and does not end with space, every
front is rejected.  Of a text that is written for a network, every front is
rejected because it ends too early. -/
theorem read_rejectsFronts :
    (∀ (text : String) (network : Network),
      codec.decode text = .ok network →
      (∀ last ∈ text.toList.getLast?, isSpace last = false) →
      ∀ front rest, text = front ++ rest → rest ≠ "" →
        ∃ fault, RejectedFor front fault) ∧
    ∀ (network : Network),
      ∀ text ∈ [codec.compact network, codec.pretty network],
      ∀ front rest, text = front ++ rest → rest ≠ "" →
        ∃ fault, RejectedFor front fault ∧ fault.category = .eof := by
  constructor
  · intro text network decodes notSpace front rest isText notEmpty
    have isCut := cut_of_append isText notEmpty
    obtain ⟨fault, stops⟩ :=
      decode_cut_eq_error read_local decodes notSpace isCut
    exact ⟨fault, rejectedFor_of_decode stops⟩
  · intro network text isWritten front rest isText notEmpty
    have isCut := cut_of_append isText notEmpty
    have ofLayout : ∃ layout : Layout,
        text = String.ofList (layout.text 0 (codec.write network)) := by
      rcases List.mem_pair.mp isWritten with isCompact | isPretty
      · exact ⟨.compact, isCompact⟩
      · exact ⟨.pretty, isPretty⟩
    obtain ⟨layout, isLayout⟩ := ofLayout
    rw [isLayout, String.toList_ofList] at isCut
    obtain ⟨fault, stops, atEnd⟩ :=
      decode_eq_error_of_failsAtEnd (network.read_failsAtEnd layout isCut)
    exact ⟨fault, rejectedFor_of_decode stops, atEnd⟩

/-- A text whose only router is a list of its fields. -/
def listedText : String :=
  "\x7b\"A\":[42,\"A\"]\x7d"

/-- The text of a network up to the middle of an escape. -/
def escapedFront : String :=
  "\x7b\"A \\\"\\\\\\n\\u00"

theorem read_rejectsFronts_insideTokens :
    (codec.decode listedText = .ok (.ofList [("A", .fresh "A" 42)]) ∧
      ∃ fault, RejectedFor "\x7b\"A\":[4" fault) ∧
    ∃ rest, codec.compact escapedNetwork = escapedFront ++ rest ∧
      ∃ fault, RejectedFor escapedFront fault ∧ fault.category = .eof := by
  have decodes : codec.decode listedText =
      .ok (.ofList [("A", .fresh "A" 42)]) := by decide +kernel
  have isFront : escapedFront.toList <+: (codec.write escapedNetwork).compact ∧
      escapedFront.toList ≠ (codec.write escapedNetwork).compact := by
    decide +kernel
  obtain ⟨⟨later, isText⟩, notAll⟩ := isFront
  have notEmpty : String.ofList later ≠ "" := by
    intro isEmpty
    rw [← isText, String.ofList_eq_empty_iff.mp isEmpty] at notAll
    exact notAll (List.append_nil _).symm
  have isText : codec.compact escapedNetwork =
      escapedFront ++ String.ofList later := by
    rw [compact, ← isText, String.ofList_append, String.ofList_toList]
  have notSpace :
      ∀ last ∈ listedText.toList.getLast?, isSpace last = false := by
    have isBrace : listedText.toList.getLast? = some '\x7d' := by decide
    rw [isBrace]
    rintro last ⟨⟩
    rfl
  obtain ⟨rejectsAccepted, rejectsWritten⟩ := read_rejectsFronts
  have rejectsListed := rejectsAccepted listedText _ decodes notSpace
    "\x7b\"A\":[4" "2,\"A\"]\x7d" (by decide) (by decide)
  have rejectsEscaped := rejectsWritten escapedNetwork
    (codec.compact escapedNetwork) List.mem_cons_self escapedFront _ isText
    notEmpty
  exact ⟨⟨decodes, rejectsListed⟩, _, isText, rejectsEscaped⟩

end Network

end BgpTestbed
