/-
# Composed text

A letter with a mark can be one character or two.  In composed text (normalization form C) the marks stand
in the order of their combining classes, and every letter that has a character together with the mark
behind it is that character.  Text is taken apart first, put in order and then put together; a mark joins
the last letter in front of it unless a mark between them has its class or a greater one.

Syllables of the Hangul script have a number each: 588 for every leading consonant, 28 for every vowel
behind it, one for every trailing consonant, the first of which is none.
-/

import ScriptImport.Text.Mark

namespace ScriptImport
namespace Text

/-- Characters that a mark makes of others: each of `whole` is the one at the same place of `bases` with
the mark. -/
structure Composites where
  mark : Nat
  bases : String
  whole : String

/-- The composites of all marks. -/
def composites : List Composites :=
  [⟨0x300, "AEINOUWYaeinouwy¨ÂÊÔÜâêôüĂăĒēŌōƠơƯưΑ", "ÀÈÌǸÒÙẀỲàèìǹòùẁỳ῭ẦỀỒǛầềồǜẰằḔḕṐṑỜờỪừᾺ"⟩,
   ⟨0x300, "ΕΗΙΟΥΩαεηιουωϊϋЕИеиἀἁἈἉἐἑἘἙἠἡἨἩἰἱἸἹὀ", "ῈῊῚῸῪῺὰὲὴὶὸὺὼῒῢЀЍѐѝἂἃἊἋἒἓἚἛἢἣἪἫἲἳἺἻὂ"⟩,
   ⟨0x300, "ὁὈὉὐὑὙὠὡὨὩ᾿῾", "ὃὊὋὒὓὛὢὣὪὫ῍῝"⟩,
   ⟨0x301, "ACEGIKLMNOPRSUWYZacegiklmnoprsuwyz¨Â", "ÁĆÉǴÍḰĹḾŃÓṔŔŚÚẂÝŹáćéǵíḱĺḿńóṕŕśúẃýź΅Ấ"⟩,
   ⟨0x301, "ÅÆÇÊÏÔÕØÜâåæçêïôõøüĂăĒēŌōŨũƠơƯưΑΕΗΙΟ", "ǺǼḈẾḮỐṌǾǗấǻǽḉếḯốṍǿǘẮắḖḗṒṓṸṹỚớỨứΆΈΉΊΌ"⟩,
   ⟨0x301, "ΥΩαεηιουωϊϋϒГКгкἀἁἈἉἐἑἘἙἠἡἨἩἰἱἸἹὀὁὈὉ", "ΎΏάέήίόύώΐΰϓЃЌѓќἄἅἌἍἔἕἜἝἤἥἬἭἴἵἼἽὄὅὌὍ"⟩,
   ⟨0x301, "ὐὑὙὠὡὨὩ᾿῾", "ὔὕὝὤὥὬὭ῎῞"⟩,
   ⟨0x302, "ACEGHIJOSUWYZaceghijosuwyzẠạẸẹỌọ", "ÂĈÊĜĤÎĴÔŜÛŴŶẐâĉêĝĥîĵôŝûŵŷẑẬậỆệỘộ"⟩,
   ⟨0x303, "AEINOUVYaeinouvyÂÊÔâêôĂăƠơƯư", "ÃẼĨÑÕŨṼỸãẽĩñõũṽỹẪỄỖẫễỗẴẵỠỡỮữ"⟩,
   ⟨0x304, "AEGIOUYaegiouyÄÆÕÖÜäæõöüǪǫȦȧȮȯΑΙΥαιυ", "ĀĒḠĪŌŪȲāēḡīōūȳǞǢȬȪǕǟǣȭȫǖǬǭǠǡȰȱᾹῙῩᾱῑῡ"⟩,
   ⟨0x304, "ИУиуḶḷṚṛ", "ӢӮӣӯḸḹṜṝ"⟩,
   ⟨0x306, "AEGIOUaegiouȨȩΑΙΥαιυАЕЖИУаежиуẠạ", "ĂĔĞĬŎŬăĕğĭŏŭḜḝᾸῘῨᾰῐῠӐӖӁЙЎӑӗӂйўẶặ"⟩,
   ⟨0x307, "ABCDEFGHIMNOPRSTWXYZabcdefghmnoprstw", "ȦḂĊḊĖḞĠḢİṀṄȮṖṘṠṪẆẊẎŻȧḃċḋėḟġḣṁṅȯṗṙṡṫẇ"⟩,
   ⟨0x307, "xyzŚśŠšſṢṣ𐗒𐗚", "ẋẏżṤṥṦṧẛṨṩ𐗉𐗤"⟩,
   ⟨0x308, "AEHIOUWXYaehiotuwxyÕõŪūΙΥιυϒІАЕЖЗИОУ", "ÄËḦÏÖÜẄẌŸäëḧïöẗüẅẍÿṎṏṺṻΪΫϊϋϔЇӒЁӜӞӤӦӰ"⟩,
   ⟨0x308, "ЧЫЭаежзиоучыэіӘәӨө", "ӴӸӬӓёӝӟӥӧӱӵӹӭїӚӛӪӫ"⟩,
   ⟨0x309, "AEIOUYaeiouyÂÊÔâêôĂăƠơƯư", "ẢẺỈỎỦỶảẻỉỏủỷẨỂỔẩểổẲẳỞởỬử"⟩,
   ⟨0x30a, "AUauwy", "ÅŮåůẘẙ"⟩,
   ⟨0x30b, "OUouУу", "ŐŰőűӲӳ"⟩,
   ⟨0x30c, "ACDEGHIKLNORSTUZacdeghijklnorstuzÜüƷ", "ǍČĎĚǦȞǏǨĽŇǑŘŠŤǓŽǎčďěǧȟǐǰǩľňǒřšťǔžǙǚǮ"⟩,
   ⟨0x30c, "ʒ", "ǯ"⟩,
   ⟨0x30f, "AEIORUaeioruѴѵ", "ȀȄȈȌȐȔȁȅȉȍȑȕѶѷ"⟩,
   ⟨0x311, "AEIORUaeioru", "ȂȆȊȎȒȖȃȇȋȏȓȗ"⟩,
   ⟨0x313, "ΑΕΗΙΟΩαεηιορυω", "ἈἘἨἸὈὨἀἐἠἰὀῤὐὠ"⟩,
   ⟨0x314, "ΑΕΗΙΟΡΥΩαεηιορυω", "ἉἙἩἹὉῬὙὩἁἑἡἱὁῥὑὡ"⟩,
   ⟨0x31b, "OUou", "ƠƯơư"⟩,
   ⟨0x323, "ABDEHIKLMNORSTUVWYZabdehiklmnorstuvw", "ẠḄḌẸḤỊḲḶṂṆỌṚṢṬỤṾẈỴẒạḅḍẹḥịḳḷṃṇọṛṣṭụṿẉ"⟩,
   ⟨0x323, "yzƠơƯư", "ỵẓỢợỰự"⟩,
   ⟨0x324, "Uu", "Ṳṳ"⟩,
   ⟨0x325, "Aa", "Ḁḁ"⟩,
   ⟨0x326, "STst", "ȘȚșț"⟩,
   ⟨0x327, "CDEGHKLNRSTcdeghklnrst", "ÇḐȨĢḨĶĻŅŖŞŢçḑȩģḩķļņŗşţ"⟩,
   ⟨0x328, "AEIOUaeiou", "ĄĘĮǪŲąęįǫų"⟩,
   ⟨0x32d, "DELNTUdelntu", "ḒḘḼṊṰṶḓḙḽṋṱṷ"⟩,
   ⟨0x32e, "Hh", "Ḫḫ"⟩,
   ⟨0x330, "EIUeiu", "ḚḬṴḛḭṵ"⟩,
   ⟨0x331, "BDKLNRTZbdhklnrtz", "ḆḎḴḺṈṞṮẔḇḏẖḵḻṉṟṯẕ"⟩,
   ⟨0x338, "<=>←→↔⇐⇒⇔∃∈∋∣∥∼≃≅≈≍≡≤≥≲≳≶≷≺≻≼≽⊂⊃⊆⊇⊑⊒", "≮≠≯↚↛↮⇍⇏⇎∄∉∌∤∦≁≄≇≉≭≢≰≱≴≵≸≹⊀⊁⋠⋡⊄⊅⊈⊉⋢⋣"⟩,
   ⟨0x338, "⊢⊨⊩⊫⊲⊳⊴⊵", "⊬⊭⊮⊯⋪⋫⋬⋭"⟩,
   ⟨0x342, "¨αηιυωϊϋἀἁἈἉἠἡἨἩἰἱἸἹὐὑὙὠὡὨὩ᾿῾", "῁ᾶῆῖῦῶῗῧἆἇἎἏἦἧἮἯἶἷἾἿὖὗὟὦὧὮὯ῏῟"⟩,
   ⟨0x345, "ΑΗΩάήαηωώἀἁἂἃἄἅἆἇἈἉἊἋἌἍἎἏἠἡἢἣἤἥἦἧἨἩἪ", "ᾼῌῼᾴῄᾳῃῳῴᾀᾁᾂᾃᾄᾅᾆᾇᾈᾉᾊᾋᾌᾍᾎᾏᾐᾑᾒᾓᾔᾕᾖᾗᾘᾙᾚ"⟩,
   ⟨0x345, "ἫἬἭἮἯὠὡὢὣὤὥὦὧὨὩὪὫὬὭὮὯὰὴὼᾶῆῶ", "ᾛᾜᾝᾞᾟᾠᾡᾢᾣᾤᾥᾦᾧᾨᾩᾪᾫᾬᾭᾮᾯᾲῂῲᾷῇῷ"⟩,
   ⟨0x653, "ا", "آ"⟩,
   ⟨0x654, "اويہےە", "أؤئۂۓۀ"⟩,
   ⟨0x655, "ا", "إ"⟩,
   ⟨0x93c, "नरळ", "ऩऱऴ"⟩,
   ⟨0x9be, "ে", "ো"⟩,
   ⟨0x9d7, "ে", "ৌ"⟩,
   ⟨0xb3e, "େ", "ୋ"⟩,
   ⟨0xb56, "େ", "ୈ"⟩,
   ⟨0xb57, "େ", "ୌ"⟩,
   ⟨0xbbe, "ெே", "ொோ"⟩,
   ⟨0xbd7, "ஒெ", "ஔௌ"⟩,
   ⟨0xc56, "ె", "ై"⟩,
   ⟨0xcc2, "ೆ", "ೊ"⟩,
   ⟨0xcd5, "ಿೆೊ", "ೀೇೋ"⟩,
   ⟨0xcd6, "ೆ", "ೈ"⟩,
   ⟨0xd3e, "െേ", "ൊോ"⟩,
   ⟨0xd57, "െ", "ൌ"⟩,
   ⟨0xdca, "ෙො", "ේෝ"⟩,
   ⟨0xdcf, "ෙ", "ො"⟩,
   ⟨0xddf, "ෙ", "ෞ"⟩,
   ⟨0x102e, "ဥ", "ဦ"⟩,
   ⟨0x1b35, "ᬅᬇᬉᬋᬍᬑᬺᬼᬾᬿᭂ", "ᬆᬈᬊᬌᬎᬒᬻᬽᭀᭁᭃ"⟩,
   ⟨0x3099, "うかきくけこさしすせそたちつてとはひふへほゝウカキクケコサシスセソタチツ", "ゔがぎぐげござじずぜぞだぢづでどばびぶべぼゞヴガギグゲゴザジズゼゾダヂヅ"⟩,
   ⟨0x3099, "テトハヒフヘホワヰヱヲヽ", "デドバビブベボヷヸヹヺヾ"⟩,
   ⟨0x309a, "はひふへほハヒフヘホ", "ぱぴぷぺぽパピプペポ"⟩,
   ⟨0x110ba, "𑂙𑂛𑂥", "𑂚𑂜𑂫"⟩,
   ⟨0x11127, "𑄱𑄲", "𑄮𑄯"⟩,
   ⟨0x1133e, "𑍇", "𑍋"⟩,
   ⟨0x11357, "𑍇", "𑍌"⟩,
   ⟨0x113b8, "𑏂", "𑏇"⟩,
   ⟨0x113bb, "𑎄", "𑎅"⟩,
   ⟨0x113c2, "𑎎", "𑎎𑏅"⟩,
   ⟨0x113c9, "𑎂𑎐𑏂", "𑎃𑎑𑏈"⟩,
   ⟨0x114b0, "𑒹", "𑒼"⟩,
   ⟨0x114ba, "𑒹", "𑒻"⟩,
   ⟨0x114bd, "𑒹", "𑒾"⟩,
   ⟨0x115af, "𑖸𑖹", "𑖺𑖻"⟩,
   ⟨0x11930, "𑤵", "𑤸"⟩,
   ⟨0x1611e, "𖄞", "𖄡"⟩,
   ⟨0x1611f, "𖄡𖄡𖄩𖄩", "𖄣𖄦𖄧𖄤"⟩,
   ⟨0x16120, "𖄡𖄞", "𖄥𖄨"⟩,
   ⟨0x16129, "𖄞", "𖄢"⟩,
   ⟨0x16d67, "𖵩𖵩", "𖵪𖵧𖵪"⟩]

/-- The character that a row of composites has for a base. -/
def Composites.compose? (r : Composites) (base : Char) : Option Char :=
  (r.bases.toList.zip r.whole.toList).lookup base

/-- The base of a character of a row of composites. -/
def Composites.base? (r : Composites) (whole : Char) : Option Char :=
  (r.whole.toList.zip r.bases.toList).lookup whole

/-! ## Hangul -/

namespace Hangul

/-- The first syllable. -/
def firstSyllable : Nat := 0xac00

/-- How many syllables there are. -/
def syllableCount : Nat := 11172

/-- The first leading consonant. -/
def firstLeading : Nat := 0x1100

/-- How many leading consonants there are. -/
def leadingCount : Nat := 19

/-- The first vowel. -/
def firstVowel : Nat := 0x1161

/-- How many vowels there are. -/
def vowelCount : Nat := 21

/-- The place in front of the first trailing consonant, which stands for no consonant. -/
def firstTrailing : Nat := 0x11a7

/-- How many trailing consonants there are, none included. -/
def trailingCount : Nat := 28

/-- The syllable of two parts: a leading consonant and a vowel, or a syllable without a trailing consonant
and such a consonant. -/
def compose? (a b : Char) : Option Char :=
  let leading := a.toNat - firstLeading
  let vowel := b.toNat - firstVowel
  let syllable := a.toNat - firstSyllable
  let trailing := b.toNat - firstTrailing
  if firstLeading ≤ a.toNat ∧ leading < leadingCount ∧ firstVowel ≤ b.toNat ∧ vowel < vowelCount then
    some (Char.ofNat (firstSyllable + (leading * vowelCount + vowel) * trailingCount))
  else if firstSyllable ≤ a.toNat ∧ syllable < syllableCount ∧ syllable % trailingCount = 0 ∧
      firstTrailing < b.toNat ∧ trailing < trailingCount then
    some (Char.ofNat (a.toNat + trailing))
  else none

/-- The two parts of a syllable. -/
def split? (c : Char) : Option (Char × Char) :=
  let syllable := c.toNat - firstSyllable
  let trailing := syllable % trailingCount
  if c.toNat < firstSyllable ∨ syllableCount ≤ syllable then none
  else if trailing = 0 then
    some (Char.ofNat (firstLeading + syllable / trailingCount / vowelCount),
      Char.ofNat (firstVowel + syllable / trailingCount % vowelCount))
  else some (Char.ofNat (c.toNat - trailing), Char.ofNat (firstTrailing + trailing))

end Hangul

/-! ## Taking apart -/

/-- The two parts of a composed character.  The first one is at `0xc0`. -/
def split? (c : Char) : Option (Char × Char) :=
  if c.toNat < 0xc0 then none
  else
    (Hangul.split? c).orElse fun _ =>
      composites.findSome? fun r => (r.base? c).map (·, Char.ofNat r.mark)

/-- The parts of a character, taken apart at most `n` times. -/
def partsIn : (n : Nat) → Char → List Char
  | 0, c => [c]
  | n + 1, c =>
    match split? c with
    | some (base, mark) => partsIn n base ++ [mark]
    | none => [c]

/-- How many marks a composed character has at most. -/
def maxMarks : Nat := 3

/-- The parts of a character. -/
def parts (c : Char) : List Char := partsIn maxMarks c

/-- Puts a mark in its place in front of characters that are in order. -/
def insertMark (c : Char) : List Char → List Char
  | [] => [c]
  | d :: ds =>
    if 0 < combiningClass d ∧ combiningClass d < combiningClass c then d :: insertMark c ds
    else c :: d :: ds

/-- A text taken apart, with its marks in order. -/
def decompose (cs : List Char) : List Char := (cs.flatMap parts).foldr insertMark []

/-! ## Putting together -/

/-- The character of two parts. -/
def compose? (a b : Char) : Option Char :=
  (Hangul.compose? a b).orElse fun _ =>
    composites.findSome? fun r => if r.mark = b.toNat then r.compose? a else none

/-- Puts `cs` together behind the letter `base` and the marks `held` that did not join it (the last one
first). -/
def joinFrom (base : Char) (held : List Char) : List Char → List Char
  | [] => base :: held.reverse
  | c :: cs =>
    let isNext := held.head?.all fun d => combiningClass d < combiningClass c
    match if isNext then compose? base c else none with
    | some whole => joinFrom whole held cs
    | none =>
      if combiningClass c = 0 then base :: held.reverse ++ joinFrom c [] cs
      else joinFrom base (c :: held) cs

/-- Puts a text together whose marks are in order. -/
def joinMarks : List Char → List Char
  | [] => []
  | c :: cs => if combiningClass c = 0 then joinFrom c [] cs else c :: joinMarks cs

/-- The composed form of a text. -/
def compose (cs : List Char) : List Char := joinMarks (decompose cs)

end Text
end ScriptImport
