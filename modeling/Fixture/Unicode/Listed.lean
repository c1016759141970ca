import Fixture.Unicode.CharSet

/-! Properties of characters that are given as lists, not by other properties. In the longer tables
Y and N tell whether characters have the property. -/
namespace Fixture.Unicode

def asciiHexDigit : CharSet := .ofCodes [(0x30, 0x39), (0x41, 0x46), (0x61, 0x66)]

def bidiControl : CharSet := .ofCodes [
  (0x61C, 0x61C), (0x200E, 0x200F), (0x202A, 0x202E), (0x2066, 0x2069)]

def bidiMirrored : CharSet := (Table.ofLines [
  "40N2Y18NYNY28NYNY29NYNY45NY15NY3710N4Y1885N2Y2460N2Y10N2Y54N2Y14N2Y177NY192N4Y3N6Y3NY3N2Y3N4YN",
  "4YNYNY4N9Y5NYN18Y5N4Y9N2YNYN8YN32Y2N4Y5NY9N2Y2N19Y5N2Y9N5Y2N2Y4N24Y2N16Y8N4Y20N2Y7N2Y1085N14Y",
  "74NY2N4YN2YN3Y5N4Y5N3Y3N14Y403N22Y2N6YN14Y8NY7N6Y3NY4N5YN2Y2N5Y4NYN3Y2N2Y10N6Y2N2Y12N19YN4Y2NY",
  "NY2NYN4Y5N2Y6N3Y24N2Y11N2Y4N4YN2Y2N2Y4N43Y2N8YN40Y5NYNY3N5Y5N3Y4NY3N5YNY256NY515N4Y3N2YN2Y14N",
  "2Y2N10Y43N8Y427N10Y2N8Y50749N6Y5N2Y162N2Y18NYNY28NYNY29NYNYN2YN2Y55159NY57NY57NY57NY57NY",
  "993340N"]).yes

def changesWhenCasefolded : CharSet := (Table.ofLines [
  "65N26Y90NY10N23YN8Y32NYNYNYNYNYNYNYNYNYNYNYNYNYNYNYNYNYNYNYNYNYNYNYNYNYNYNYNY2NYNYNYNYNYNYNYNY",
  "N2YNYNYNYNYNYNYNYNYNYNYNYNYNYNYNYNYNYNYNYNYNYNYN2YNYNYNYN2YNYN2YN3Y2N4YN2YN3Y3N2YN2YNYNYN2YNY",
  "2NYN2YN3YNYN2Y3NY7N2YN2YN2YNYNYNYNYNYNYNYNY2NYNYNYNYNYNYNYNYNY2N2YNYN3YNYNYNYNYNYNYNYNYNYNYNYN",
  "YNYNYNYNYNYNYNYNYNYNYNYNYNYNYNYNYNY7N2YN2Y2NYN4YNYNYNYNY246NY42NYNY3NY8NY6NYN3YNYN2YN17YN9Y22N",
  "Y12N3Y3N2YNYNYNYNYNYNYNYNYNYNYNYNYN2Y2N2YNYN2Y2N51Y48NYNYNYNYNYNYNYNYNYNYNYNYNYNYNYNYNY9NYNYNY",
  "NYNYNYNYNYNYNYNYNYNYNYNYNYNYNYNYNYNYNYNYNYNYNYNYN2YNYNYNYNYNYNY2NYNYNYNYNYNYNYNYNYNYNYNYNYNYNY",
  "NYNYNYNYNYNYNYNYNYNYNYNYNYNYNYNYNYNYNYNYNYNYNYNYNYNYNYNYNYNYNYNYNY2N38Y48NY2840N38YNY5NY810N6Y",
  "2178N10Y6N43Y2N3Y320NYNYNYNYNYNYNYNYNYNYNYNYNYNYNYNYNYNYNYNYNYNYNYNYNYNYNYNYNYNYNYNYNYNYNYNYNY",
  "NYNYNYNYNYNYNYNYNYNYNYNYNYNYNYNYNYNYNYNYNYNYNYNYNYNYNYNYNYNYNYNYNYNYNYNYNYNY5N2Y2NYNYNYNYNYNYN",
  "YNYNYNYNYNYNYNYNYNYNYNYNYNYNYNYNYNYNYNYNYNYNYNYNYNYNYNYNYNYNYNYNYNYNYNYNYNYNYNYNYNYNY9N8Y8N6Y",
  "10N8Y8N8Y8N6Y11NYNYNYNY8N8Y16N48Y2N3Y2N6Y5N3Y2N6Y11N4Y12N5Y5N3Y2N6Y297NY3N2Y6NY45N16Y19NY818N",
  "26Y1840N48Y48NYN3Y2NYNYNYN4YNY2NY8N3YNYNYNYNYNYNYNYNYNYNYNYNYNYNYNYNYNYNYNYNYNYNYNYNYNYNYNYNYN",
  "YNYNYNYNYNYNYNYNYNYNYNYNYNYNYNYNYNYNYNYNY8NYNY4NY31053NYNYNYNYNYNYNYNYNYNYNYNYNYNYNYNYNYNYNYNY",
  "NYNYNY19NYNYNYNYNYNYNYNYNYNYNYNYNYNY135NYNYNYNYNYNYNY3NYNYNYNYNYNYNYNYNYNYNYNYNYNYNYNYNYNYNYNY",
  "NYNYNYNYNYNYNYNYNYNYNY10NYNYN2YNYNYNYNY4NYNY2NYNY3NYNYNYNYNYNYNYNYNYNYN5YN5YNYNYNYNYNYNYNYN4YN",
  "YN2Y3NY5NYNYNYNY24NY890N80Y18240N7Y12N5Y1033N26Y1221N40Y136N36Y156N11YN15YN7YN2Y1770N51Y157N",
  "22Y2874N32Y21888N32Y31392N34Y988894N"]).yes

def changesWhenLowercased : CharSet := (Table.ofLines [
  "65N26Y101N23YN7Y33NYNYNYNYNYNYNYNYNYNYNYNYNYNYNYNYNYNYNYNYNYNYNYNYNYNYNYNY2NYNYNYNYNYNYNYNY2NY",
  "NYNYNYNYNYNYNYNYNYNYNYNYNYNYNYNYNYNYNYNYNYNYN2YNYNY3N2YNYN2YN3Y2N4YN2YN3Y3N2YN2YNYNYN2YNY2NYN",
  "2YN3YNYN2Y3NY7N2YN2YN2YNYNYNYNYNYNYNYNY2NYNYNYNYNYNYNYNYNY2N2YNYN3YNYNYNYNYNYNYNYNYNYNYNYNYNYN",
  "YNYNYNYNYNYNYNYNYNYNYNYNYNYNYNY7N2YN2Y2NYN4YNYNYNYNY289NYNY3NY8NY6NYN3YNYN2YN17YN9Y35NY8NYNYNY",
  "NYNYNYNYNYNYNYNYNY5NY2NYN2Y2N51Y48NYNYNYNYNYNYNYNYNYNYNYNYNYNYNYNYNY9NYNYNYNYNYNYNYNYNYNYNYNYN",
  "YNYNYNYNYNYNYNYNYNYNYNYNYNYNYN2YNYNYNYNYNYNY2NYNYNYNYNYNYNYNYNYNYNYNYNYNYNYNYNYNYNYNYNYNYNYNYN",
  "YNYNYNYNYNYNYNYNYNYNYNYNYNYNYNYNYNYNYNYNYNYNYNY2N38Y2889N38YNY5NY722N86Y2195NY6N43Y2N3Y320NYNY",
  "NYNYNYNYNYNYNYNYNYNYNYNYNYNYNYNYNYNYNYNYNYNYNYNYNYNYNYNYNYNYNYNYNYNYNYNYNYNYNYNYNYNYNYNYNYNYNY",
  "NYNYNYNYNYNYNYNYNYNYNYNYNYNYNYNYNYNYNYNYNYNYNYNYNYNY9NYNYNYNYNYNYNYNYNYNYNYNYNYNYNYNYNYNYNYNYN",
  "YNYNYNYNYNYNYNYNYNYNYNYNYNYNYNYNYNYNYNYNYNYNYNYNYNYNYNYNY9N8Y8N6Y10N8Y8N8Y8N6Y11NYNYNYNY8N8Y",
  "24N8Y8N8Y8N8Y8N5Y11N5Y11N4Y12N5Y11N5Y297NY3N2Y6NY45N16Y19NY818N26Y1840N48Y48NYN3Y2NYNYNYN4YNY",
  "2NY8N3YNYNYNYNYNYNYNYNYNYNYNYNYNYNYNYNYNYNYNYNYNYNYNYNYNYNYNYNYNYNYNYNYNYNYNYNYNYNYNYNYNYNYNYN",
  "YNYNYNYNYNY8NYNY4NY31053NYNYNYNYNYNYNYNYNYNYNYNYNYNYNYNYNYNYNYNYNYNYNY19NYNYNYNYNYNYNYNYNYNYNY",
  "NYNYNY135NYNYNYNYNYNYNY3NYNYNYNYNYNYNYNYNYNYNYNYNYNYNYNYNYNYNYNYNYNYNYNYNYNYNYNYNYNYNY10NYNYN",
  "2YNYNYNYNY4NYNY2NYNY3NYNYNYNYNYNYNYNYNYNYN5YN5YNYNYNYNYNYNYNYN4YNYN2Y3NY5NYNYNYNY24NY20267N26Y",
  "1221N40Y136N36Y156N11YN15YN7YN2Y1770N51Y157N22Y2874N32Y21888N32Y31392N34Y988894N"]).yes

def changesWhenTitlecased : CharSet := (Table.ofLines [
  "97N26Y58NY41N24YN8YNYNYNYNYNYNYNYNYNYNYNYNYNYNYNYNYNYNYNYNYNYNYNYNYNYNYNYNY2NYNYNYNYNYNYNYN2YN",
  "YNYNYNYNYNYNYNYNYNYNYNYNYNYNYNYNYNYNYNYNYNYNY2NYNYN3Y2NYNY2NY3NY5NY2NY3N3Y2NY2NYNYNY2NY4NY2NY",
  "3NYNY2NY3NYNY4NYN2YN2YNYNYNYNYNYNYNYNYN2YNYNYNYNYNYNYNYNYN3YNYNY3NYNYNYNYNYNYNYNYNYNYNYNYNYNYN",
  "YNYNYNYNYNY3NYNYNYNYNYNYNYNYNY8NY2N2YNY4NYNYNYNYN6YN2YNYN2Y3N2YN4YN5Y2NYN2Y2NY7NY2NYN2Y3N6Y5NY",
  "10N2Y166NY43NYNY3NY3N3Y18NY27N35YN2Y3N3YNYNYNYNYNYNYNYNYNYNYNYN5YNY2NY2NY52N48YNYNYNYNYNYNYNYN",
  "YNYNYNYNYNYNYNYNYNY9NYNYNYNYNYNYNYNYNYNYNYNYNYNYNYNYNYNYNYNYNYNYNYNYNYNYNY2NYNYNYNYNYNYN2YNYNY",
  "NYNYNYNYNYNYNYNYNYNYNYNYNYNYNYNYNYNYNYNYNYNYNYNYNYNYNYNYNYNYNYNYNYNYNYNYNYNYNYNYNYNYNYNYNYNY",
  "49N39Y3696N6Y2178N9YNY238NY3NY16NY114NYNYNYNYNYNYNYNYNYNYNYNYNYNYNYNYNYNYNYNYNYNYNYNYNYNYNYNYN",
  "YNYNYNYNYNYNYNYNYNYNYNYNYNYNYNYNYNYNYNYNYNYNYNYNYNYNYNYNYNYNYNYNYNYNYNYNYNYNYNYNYNYNYNYNYNYN7Y",
  "5NYNYNYNYNYNYNYNYNYNYNYNYNYNYNYNYNYNYNYNYNYNYNYNYNYNYNYNYNYNYNYNYNYNYNYNYNYNYNYNYNYNYNYNYNYNYN",
  "YN9Y8N6Y10N8Y8N8Y8N6Y10N8Y8N8Y8N14Y2N8Y8N8Y8N8Y8N5YN2Y6NY3N3YN2Y8N4Y2N2Y8N8Y10N3YN2Y342NY33N",
  "16Y4NY843N26Y1862N48YNY3N2YNYNYNY6NY2NY10NYNYNYNYNYNYNYNYNYNYNYNYNYNYNYNYNYNYNYNYNYNYNYNYNYNYN",
  "YNYNYNYNYNYNYNYNYNYNYNYNYNYNYNYNYNYNYNYNYNYNYNY8NYNY4NY12N38YNY5NY30995NYNYNYNYNYNYNYNYNYNYNYN",
  "YNYNYNYNYNYNYNYNYNYNYNY19NYNYNYNYNYNYNYNYNYNYNYNYNYNY135NYNYNYNYNYNYNY3NYNYNYNYNYNYNYNYNYNYNYN",
  "YNYNYNYNYNYNYNYNYNYNYNYNYNYNYNYNYNYNYNY10NYNY2NYNYNYNYNY4NY4NYN2Y2NYNYNYNYNYNYNYNYNYNY11NYNYNY",
  "NYNYNYNYNY4NYNY2NY3NY5NYNYNY26NY860NY28N80Y18240N7Y12N5Y1065N26Y1229N40Y136N36Y155N11YN15YN7YN",
  "2Y1795N51Y125N22Y2874N32Y21888N32Y31394N34Y988860N"]).yes

def changesWhenUppercased : CharSet := (Table.ofLines [
  "97N26Y58NY41N24YN8YNYNYNYNYNYNYNYNYNYNYNYNYNYNYNYNYNYNYNYNYNYNYNYNYNYNYNYNY2NYNYNYNYNYNYNYN2YN",
  "YNYNYNYNYNYNYNYNYNYNYNYNYNYNYNYNYNYNYNYNYNYNY2NYNYN3Y2NYNY2NY3NY5NY2NY3N3Y2NY2NYNYNY2NY4NY2NY",
  "3NYNY2NY3NYNY5N2YN2YN2YNYNYNYNYNYNYNYN2YNYNYNYNYNYNYNYNYN2YN2YNY3NYNYNYNYNYNYNYNYNYNYNYNYNYNYN",
  "YNYNYNYNYNY3NYNYNYNYNYNYNYNYNY8NY2N2YNY4NYNYNYNYN6YN2YNYN2Y3N2YN4YN5Y2NYN2Y2NY7NY2NYN2Y3N6Y5NY",
  "10N2Y166NY43NYNY3NY3N3Y18NY27N35YN2Y3N3YNYNYNYNYNYNYNYNYNYNYNYN5YNY2NY2NY52N48YNYNYNYNYNYNYNYN",
  "YNYNYNYNYNYNYNYNYNY9NYNYNYNYNYNYNYNYNYNYNYNYNYNYNYNYNYNYNYNYNYNYNYNYNYNYNY2NYNYNYNYNYNYN2YNYNY",
  "NYNYNYNYNYNYNYNYNYNYNYNYNYNYNYNYNYNYNYNYNYNYNYNYNYNYNYNYNYNYNYNYNYNYNYNYNYNYNYNYNYNYNYNYNYNY",
  "49N39Y2888N43Y2N3Y760N6Y2178N9YNY238NY3NY16NY114NYNYNYNYNYNYNYNYNYNYNYNYNYNYNYNYNYNYNYNYNYNYNY",
  "NYNYNYNYNYNYNYNYNYNYNYNYNYNYNYNYNYNYNYNYNYNYNYNYNYNYNYNYNYNYNYNYNYNYNYNYNYNYNYNYNYNYNYNYNYNYNY",
  "NYNYNYNYN7Y5NYNYNYNYNYNYNYNYNYNYNYNYNYNYNYNYNYNYNYNYNYNYNYNYNYNYNYNYNYNYNYNYNYNYNYNYNYNYNYNYNY",
  "NYNYNYNYNYNYN9Y8N6Y10N8Y8N8Y8N6Y10N8Y8N8Y8N14Y2N53YN2Y4NYNY3N3YN2Y4NY3N4Y2N2Y8N8Y10N3YN2Y4NY",
  "337NY33N16Y4NY843N26Y1862N48YNY3N2YNYNYNY6NY2NY10NYNYNYNYNYNYNYNYNYNYNYNYNYNYNYNYNYNYNYNYNYNYN",
  "YNYNYNYNYNYNYNYNYNYNYNYNYNYNYNYNYNYNYNYNYNYNYNYNYNYNYNY8NYNY4NY12N38YNY5NY30995NYNYNYNYNYNYNYN",
  "YNYNYNYNYNYNYNYNYNYNYNYNYNYNYNY19NYNYNYNYNYNYNYNYNYNYNYNYNYNY135NYNYNYNYNYNYNY3NYNYNYNYNYNYNYN",
  "YNYNYNYNYNYNYNYNYNYNYNYNYNYNYNYNYNYNYNYNYNYNYNY10NYNY2NYNYNYNYNY4NY4NYN2Y2NYNYNYNYNYNYNYNYNYNY",
  "11NYNYNYNYNYNYNYNY4NYNY2NY3NY5NYNYNY26NY860NY28N80Y18240N7Y12N5Y1065N26Y1229N40Y136N36Y155N11Y",
  "N15YN7YN2Y1795N51Y125N22Y2874N32Y21888N32Y31394N34Y988860N"]).yes

def dash : CharSet := .ofCodes [
  (0x2D, 0x2D), (0x58A, 0x58A), (0x5BE, 0x5BE), (0x1400, 0x1400), (0x1806, 0x1806),
  (0x2010, 0x2015), (0x2053, 0x2053), (0x207B, 0x207B), (0x208B, 0x208B), (0x2212, 0x2212),
  (0x2E17, 0x2E17), (0x2E1A, 0x2E1A), (0x2E3A, 0x2E3B), (0x2E40, 0x2E40), (0x2E5D, 0x2E5D),
  (0x301C, 0x301C), (0x3030, 0x3030), (0x30A0, 0x30A0), (0xFE31, 0xFE32), (0xFE58, 0xFE58),
  (0xFE63, 0xFE63), (0xFF0D, 0xFF0D), (0x10D6E, 0x10D6E), (0x10EAD, 0x10EAD)]

def defaultIgnorableCodePoint : CharSet := .ofCodes [
  (0xAD, 0xAD), (0x34F, 0x34F), (0x61C, 0x61C), (0x115F, 0x1160), (0x17B4, 0x17B5),
  (0x180B, 0x180F), (0x200B, 0x200F), (0x202A, 0x202E), (0x2060, 0x206F), (0x3164, 0x3164),
  (0xFE00, 0xFE0F), (0xFEFF, 0xFEFF), (0xFFA0, 0xFFA0), (0xFFF0, 0xFFF8), (0x1BCA0, 0x1BCA3),
  (0x1D173, 0x1D17A), (0xE0000, 0xE0FFF)]

def deprecated : CharSet := .ofCodes [
  (0x149, 0x149), (0x673, 0x673), (0xF77, 0xF77), (0xF79, 0xF79), (0x17A3, 0x17A4),
  (0x206A, 0x206F), (0x2329, 0x232A), (0xE0001, 0xE0001)]

def diacritic : CharSet := (Table.ofLines [
  "94NYNY71NY6NY4NY2N2Y503N159YN8Y5N6Y17N2Y4NY9N2Y253N5Y209NY55N17YN27YNYN2YNY134N8Y4N2Y134N2Y4N",
  "2Y3N3Y67N27Y91N11Y58N11Y34N2Y126N8Y41N10Y16N28Y61NY16NY3N4Y28NY74NY16NY110NY16NY110NY16NY47N3Y",
  "60NY16NY7NY119NY110NY16NY110NY16NY109N2Y16NY124NY111NY12N6YNY107NY13N5Y75N2Y27NYNYNY4N2Y66N3YN",
  "2Y62NY112NYN2Y40N2Y4N5Y25N7YNY10N2Y705N3Y948N2Y30NY148N11Y9NY347N3Y292NY20N8Y2NY48N15Y2N11Y",
  "104NY15NY38N9Y54N2Y58NY11N2Y66N2Y64N6Y82N25Y4NY6NY2N3Y50N63Y89N12Y37N11Y445NYN3Y11N3Y13N3Y13N",
  "3Y13N2Y3312N3Y317NY506N6Y105N4Y95NY30066NY12N2YNY28N2Y82N2Y14N34Y102N3Y109N2Y12NY37NY151NY27N",
  "18Y57N4Y36NY95NY12NY36NY149N3Y65N4Y51NY100N5Y9N3Y128N2Y18224NY769N16Y270NYNY47NY45N2Y67NY764NY",
  "1183N6YN42YN9Y637N3Y4NY165N2Y571N6Y38NY26N5Y399N3Y70N11Y49N4Y192NY41NY72N2Y120N2Y62NY76NY9N3Y",
  "104N2Y178N2Y80N2Y16NY24N7Y3N5Y89N3YN2Y13N2Y95NY3NY123N2Y251N2Y126NY118N2Y115NY269N2Y258N2Y4NY",
  "156NY83NY18NY81NY421NY258NYN2Y81NY425N2Y23NY5356N15Y11481NY2496N5Y59N7Y564N2Y546N17Y80N2Y",
  "16382N4YN7YN2Y7937N46Y2N23Y544N3Y3N6Y8N8Y2N7Y30N4Y3714N62Y194N7Y375NY61N4Y766N2Y736N7Y109N3YN",
  "3Y988853N"]).yes

def emoji : CharSet := (Table.ofLines [
  "35NY6NY5N10Y111NY4NY8077NY12NY216NY22NY90N6Y15N2Y367N2Y12NY166NY25N11Y4N3Y199NY231N2Y10NY9NY",
  "58N4YN5Y9NY2NY2N2Y2NY4NY2NYN2Y2NY3NY3N2Y8N3Y5NYNY5N12Y11N2Y2NYN2YNY18NY2N2Y18N6YNYN2Y3N2Y5NY2N",
  "2Y4N2Y11N2Y5N2Y2NY5N2YNYN2Y20N2Y5N6YN4Y2NY4NY2NY2N6YNY2NYNYNY6NY3NY6NY10N2Y15NY2NY4NYNY4N3YNY",
  "11N2Y48N3Y9NY14NY14NY372N2Y463N3Y19N2Y51NY4NY1242NY12NY601NYNY111978NY202NY160N2Y12N2Y14NY2N",
  "10Y75N26YN2Y23NY20NY2N9Y21N2Y174N34Y2N112Y2N2YN3Y2N83Y2N3YN263YN63Y11N6YN24Y7N2Y2N8Y12NY2N4Y2N",
  "Y4N2Y13N2Y2NY8N2Y9NY5N3Y12N3Y8N3Y2NYNY4NY6NY3NY6N86Y48N70Y5N8Y2N3Y4N10Y3NYN2Y3NY2N10Y227N12Y4N",
  "Y283N47YN10YN185Y112N13Y3N10Y5N56Y7N15Y2N11Y6N9Y984327N"]).yes

def emojiComponent : CharSet := .ofCodes [
  (0x23, 0x23), (0x2A, 0x2A), (0x30, 0x39), (0x200D, 0x200D), (0x20E3, 0x20E3), (0xFE0F, 0xFE0F),
  (0x1F1E6, 0x1F1FF), (0x1F3FB, 0x1F3FF), (0x1F9B0, 0x1F9B3), (0xE0020, 0xE007F)]

def emojiModifier : CharSet := .ofCodes [(0x1F3FB, 0x1F3FF)]

def emojiModifierBase : CharSet := .ofCodes [
  (0x261D, 0x261D), (0x26F9, 0x26F9), (0x270A, 0x270D), (0x1F385, 0x1F385), (0x1F3C2, 0x1F3C4),
  (0x1F3C7, 0x1F3C7), (0x1F3CA, 0x1F3CC), (0x1F442, 0x1F443), (0x1F446, 0x1F450),
  (0x1F466, 0x1F478), (0x1F47C, 0x1F47C), (0x1F481, 0x1F483), (0x1F485, 0x1F487),
  (0x1F48F, 0x1F48F), (0x1F491, 0x1F491), (0x1F4AA, 0x1F4AA), (0x1F574, 0x1F575),
  (0x1F57A, 0x1F57A), (0x1F590, 0x1F590), (0x1F595, 0x1F596), (0x1F645, 0x1F647),
  (0x1F64B, 0x1F64F), (0x1F6A3, 0x1F6A3), (0x1F6B4, 0x1F6B6), (0x1F6C0, 0x1F6C0),
  (0x1F6CC, 0x1F6CC), (0x1F90C, 0x1F90C), (0x1F90F, 0x1F90F), (0x1F918, 0x1F91F),
  (0x1F926, 0x1F926), (0x1F930, 0x1F939), (0x1F93C, 0x1F93E), (0x1F977, 0x1F977),
  (0x1F9B5, 0x1F9B6), (0x1F9B8, 0x1F9B9), (0x1F9BB, 0x1F9BB), (0x1F9CD, 0x1F9CF),
  (0x1F9D1, 0x1F9DD), (0x1FAC3, 0x1FAC5), (0x1FAF0, 0x1FAF8)]

def emojiPresentation : CharSet := (Table.ofLines [
  "8986N2Y205N4Y3NY2NY521N2Y21N2Y50N12Y43NY19NY13NY8N2Y17N2Y5N2Y8NY5NY21NY7N2YNY4NY2NY7NY4N2Y28NY",
  "35NYNY4N3YNY61N3Y24NY14NY859N2Y51NY4NY113838NY202NY190NY2N10Y75N26YNY24NY20NY2N5YN3Y21N2Y174N",
  "33Y12N9YN70YN22Y12N43Y4N5Y12N17Y3NY3N71YNYN187Y2N63Y13N4YN24Y18NY26N2Y13NY86N85Y48N70Y6NY3N3Y",
  "2N3Y4N4Y11N2Y7N9Y227N12Y4NY283N47YN10YN185Y112N13Y3N10Y5N56Y7N15Y2N11Y6N9Y984327N"]).yes

def extendedPictographic : CharSet := (Table.ofLines [
  "169NY4NY8077NY12NY216NY22NY90N6Y15N2Y367N2Y12NY95NY70NY25N11Y4N3Y199NY231N2Y10NY9NY58N4YN6YN",
  "12YN114Y10N118Y2N11YNYNY6NY3NY6NY10N2Y15NY2NY4NYNY4N3YNY11N5Y45N3Y9NY14NY14NY372N2Y463N3Y19N2Y",
  "51NY4NY1242NY12NY601NYNY111974N256Y13N3Y31NY60N6Y12N2Y14NY2N10Y18N57Y27N15Y10NY20NY2N9YN4Y9N",
  "434Y5N318Y8N266Y48N128Y116N12Y85N43Y12N4Y56N8Y10N6Y40N8Y30N82Y12N47YN10YN441Y256N1022Y983042N"]).yes

def extender : CharSet := (Table.ofLines [
  "183NY536N2Y878NY441NY630NY137NY89NY752NY127NY2371NY56NY611NY398NY68NY5001NY43N5Y103N2Y93N3Y",
  "28438NY1526NY962NY22NY137NY108NY21N2Y19579NY2064N2Y1483NY27NY4NY1223NY293NY116N2Y498N3Y1231NY",
  "20649N2Y1180N2YNY29016N2Y1201NY852N3Y988857N"]).yes

def graphemeLink : CharSet := (Table.ofLines [
  "2381NY127NY127NY127NY127NY127NY127NY127NY109N2Y16NY124NY111NY127NY201NY180N2Y1753N2Y30NY157NY",
  "653NY227NY101N2Y70N2Y4491NY31366NY37NY151NY142NY108NY309NY246NY22097NY1542NY41NY14NY57NY121N2Y",
  "139NY116NY180NY98NY128N3Y113NY127NY252NY127NY118NY116NY269NY259N2Y161NY83NY18NY81NY421NY260N2Y",
  "81NY425N2Y16876NY1023696N"]).yes

def hexDigit : CharSet := .ofCodes [
  (0x30, 0x39), (0x41, 0x46), (0x61, 0x66), (0xFF10, 0xFF19), (0xFF21, 0xFF26), (0xFF41, 0xFF46)]

def hyphen : CharSet := .ofCodes [
  (0x2D, 0x2D), (0xAD, 0xAD), (0x58A, 0x58A), (0x1806, 0x1806), (0x2010, 0x2011),
  (0x2E17, 0x2E17), (0x30FB, 0x30FB), (0xFE63, 0xFE63), (0xFF0D, 0xFF0D), (0xFF65, 0xFF65)]

def idsBinaryOperator : CharSet := .ofCodes [(0x2FF0, 0x2FF1), (0x2FF4, 0x2FFD), (0x31EF, 0x31EF)]

def idsTrinaryOperator : CharSet := .ofCodes [(0x2FF2, 0x2FF3)]

def idsUnaryOperator : CharSet := .ofCodes [(0x2FFE, 0x2FFF)]

def idCompatMathContinue : CharSet := .ofCodes [
  (0xB2, 0xB3), (0xB9, 0xB9), (0x2070, 0x2070), (0x2074, 0x207E), (0x2080, 0x208E),
  (0x2202, 0x2202), (0x2207, 0x2207), (0x221E, 0x221E), (0x1D6C1, 0x1D6C1), (0x1D6DB, 0x1D6DB),
  (0x1D6FB, 0x1D6FB), (0x1D715, 0x1D715), (0x1D735, 0x1D735), (0x1D74F, 0x1D74F),
  (0x1D76F, 0x1D76F), (0x1D789, 0x1D789), (0x1D7A9, 0x1D7A9), (0x1D7C3, 0x1D7C3)]

def idCompatMathStart : CharSet := .ofCodes [
  (0x2202, 0x2202), (0x2207, 0x2207), (0x221E, 0x221E), (0x1D6C1, 0x1D6C1), (0x1D6DB, 0x1D6DB),
  (0x1D6FB, 0x1D6FB), (0x1D715, 0x1D715), (0x1D735, 0x1D735), (0x1D74F, 0x1D74F),
  (0x1D76F, 0x1D76F), (0x1D789, 0x1D789), (0x1D7A9, 0x1D7A9), (0x1D7C3, 0x1D7C3)]

def ideographic : CharSet := .ofCodes [
  (0x3006, 0x3007), (0x3021, 0x3029), (0x3038, 0x303A), (0x3400, 0x4DBF), (0x4E00, 0x9FFF),
  (0xF900, 0xFA6D), (0xFA70, 0xFAD9), (0x16FE4, 0x16FE4), (0x17000, 0x187F7), (0x18800, 0x18CD5),
  (0x18CFF, 0x18D08), (0x1B170, 0x1B2FB), (0x20000, 0x2A6DF), (0x2A700, 0x2B739),
  (0x2B740, 0x2B81D), (0x2B820, 0x2CEA1), (0x2CEB0, 0x2EBE0), (0x2EBF0, 0x2EE5D),
  (0x2F800, 0x2FA1D), (0x30000, 0x3134A), (0x31350, 0x323AF)]

def joinControl : CharSet := .ofCodes [(0x200C, 0x200D)]

def logicalOrderException : CharSet := .ofCodes [
  (0xE40, 0xE44), (0xEC0, 0xEC4), (0x19B5, 0x19B7), (0x19BA, 0x19BA), (0xAAB5, 0xAAB6),
  (0xAAB9, 0xAAB9), (0xAABB, 0xAABC)]

def modifierCombiningMark : CharSet := .ofCodes [
  (0x654, 0x655), (0x658, 0x658), (0x6DC, 0x6DC), (0x6E3, 0x6E3), (0x6E7, 0x6E8), (0x8CA, 0x8CB),
  (0x8CD, 0x8CF), (0x8D3, 0x8D3), (0x8F3, 0x8F3)]

def noncharacterCodePoint : CharSet := .ofCodes [
  (0xFDD0, 0xFDEF), (0xFFFE, 0xFFFF), (0x1FFFE, 0x1FFFF), (0x2FFFE, 0x2FFFF), (0x3FFFE, 0x3FFFF),
  (0x4FFFE, 0x4FFFF), (0x5FFFE, 0x5FFFF), (0x6FFFE, 0x6FFFF), (0x7FFFE, 0x7FFFF),
  (0x8FFFE, 0x8FFFF), (0x9FFFE, 0x9FFFF), (0xAFFFE, 0xAFFFF), (0xBFFFE, 0xBFFFF),
  (0xCFFFE, 0xCFFFF), (0xDFFFE, 0xDFFFF), (0xEFFFE, 0xEFFFF), (0xFFFFE, 0xFFFFF),
  (0x10FFFE, 0x10FFFF)]

def otherAlphabetic : CharSet := (Table.ofLines [
  "837NY29N13Y576N14YNYN2YN2YNY72N11Y48N13YN7Y16NY101N7Y4N4Y2N2Y4NY35NY30N16Y102N11Y101N2Y3N9YN3Y",
  "N4Y106NY60N12Y3N7Y6N20Y54N2Y2N15YN2Y5N3Y10N2Y29N3Y58N7Y2N2Y2N2Y10NY10N2Y29N3Y58N5Y4N2Y2N2Y4NY",
  "30N2Y3NY11N3Y58N8YN3YN2Y21N2Y22N3Y4N3Y58N7Y2N2Y2N2Y9N2Y10N2Y30NY59N5Y3N3YN3Y10NY40N5Y57N7YN3YN",
  "3Y8N2Y11N2Y29N3Y58N7YN3YN3Y8N2Y11N2Y15NY12N4Y58N7YN3YN3Y10NY10N2Y29N3Y75N6YNYN8Y18N2Y61NY2N7Y",
  "18NY99NY2N6YN2Y16NY163N19Y9N11YN36Y110N12YNY2N4Y23N4Y4N3YN3Y2N7Y3N4Y13N12YNY10N4Y1652N2Y30N2Y",
  "30N2Y30N2Y66N19Y188N2Y34NY118N12Y4N9Y222N5Y57N10Y2N20Y74N2Y11N3Y49N5Y48N15Y60N3Y30N9Y2N2Y57N",
  "11Y50N19Y412N34Y1729N52Y2294N32Y30836N8Y34N2Y354NY8NY23N5Y88N2Y50N16YNY57NY38N5Y28N12Y45N4Y48N",
  "12Y37NY67N14Y12NY8N2Y45N3Y50NYN3Y2N2Y5NY44N5Y5NY237N8Y18227NY2135N5Y1670N3YN2Y5N4Y788N4Y65NY",
  "321N2Y79NY259N3Y53N14Y45N2Y11N3Y45N9Y9NY61N3Y36N12Y18N2Y57N3Y48N13Y14N2Y92N9Y2NY6NY2NY157N10Y",
  "23N4Y58N7Y2N2Y2N2Y10NY10N2Y84N9YNY2NYN4YN2Y103N13YN3Y106N18Y237N7Y2N7Y29N2Y82N15YNY106N11Y103N",
  "14Y257N13Y247N6YN2Y2N2Y3NYNY142N7Y2N6Y4NY28N10Y42N5YN4Y18N11Y46N14Y407N8YN7Y83N22YN14Y122N6Y3N",
  "YN2YN3YNY3NY66N5YN2YN4Y348N4Y9N2YNY48N7Y3N3Y16861N17Y3616NYN55Y7N4Y93N2Y19628NY9057N7YN17Y2N7Y",
  "N2YN5Y100NY2231NY2024N26Y6N26Y6N26Y986742N"]).yes

def otherDefaultIgnorableCodePoint : CharSet := .ofCodes [
  (0x34F, 0x34F), (0x115F, 0x1160), (0x17B4, 0x17B5), (0x2065, 0x2065), (0x3164, 0x3164),
  (0xFFA0, 0xFFA0), (0xFFF0, 0xFFF8), (0xE0000, 0xE0000), (0xE0002, 0xE001F), (0xE0080, 0xE00FF),
  (0xE01F0, 0xE0FFF)]

def otherGraphemeExtend : CharSet := (Table.ofLines [
  "2494NY24NY358NY24NY102NY24NY232NYNY4N2YN2Y9N2Y103NY24NY119NY15NY2357NY30NY1024NY5NYNY5N2Y101NY",
  "71N2Y1048NY4129N2Y31011NY108NY19933N2Y4640NY116NY264NY14NY9NY96NY9NY2NYN3Y5NY224NY12NY241NY",
  "262NY633NY12NY1539NY20654N2Y24947N2Y6N6Y798381N96Y196480N"]).yes

def otherIdContinue : CharSet := .ofCodes [
  (0xB7, 0xB7), (0x387, 0x387), (0x1369, 0x1371), (0x19DA, 0x19DA), (0x200C, 0x200D),
  (0x30FB, 0x30FB), (0xFF65, 0xFF65)]

def otherIdStart : CharSet := .ofCodes [
  (0x1885, 0x1886), (0x2118, 0x2118), (0x212E, 0x212E), (0x309B, 0x309C)]

def otherLowercase : CharSet := .ofCodes [
  (0xAA, 0xAA), (0xBA, 0xBA), (0x2B0, 0x2B8), (0x2C0, 0x2C1), (0x2E0, 0x2E4), (0x345, 0x345),
  (0x37A, 0x37A), (0x10FC, 0x10FC), (0x1D2C, 0x1D6A), (0x1D78, 0x1D78), (0x1D9B, 0x1DBF),
  (0x2071, 0x2071), (0x207F, 0x207F), (0x2090, 0x209C), (0x2170, 0x217F), (0x24D0, 0x24E9),
  (0x2C7C, 0x2C7D), (0xA69C, 0xA69D), (0xA770, 0xA770), (0xA7F2, 0xA7F4), (0xA7F8, 0xA7F9),
  (0xAB5C, 0xAB5F), (0xAB69, 0xAB69), (0x10780, 0x10780), (0x10783, 0x10785), (0x10787, 0x107B0),
  (0x107B2, 0x107BA), (0x1E030, 0x1E06D)]

def otherMath : CharSet := (Table.ofLines [
  "94NY881N3Y2NY26N2Y2N2Y7200NY27N3Y11NY32N4Y24N2Y14N2Y65N13Y4NY3N2Y4N5Y18NY4NY2N10YNY3N5Y6NY3N2Y",
  "2N2YN3YN6Y3N4Y5N5Y75N5Y2N4YN2YN2YNYN5Y2N2Y4N2Y4N18Y2N2YNYN7YNY6N2Y290N4Y168N2YNY24NY17NY445N2Y",
  "12N9Y5N5Y5N2Y2N2Y3N5Y14NYNY2N6Y24N2Y57NYNY29N4Y9N2Y342N2Y31N10Y403N22Y63N4Y32N2Y52323NYNY4NY",
  "211NYNY54465N85YN71YN2Y2NY2N2Y2N4YN12YNYN7YN65YN4Y2N8YN7YN28YN4YN5YNY3N7YN340Y2N25YN25YN31YN",
  "25YN31YN25YN31YN25YN31YN25YN8Y2N50Y5632N4YN27YN2YNY2NYN10YN4YNYNY6NY4NYNYNYN3YN2YNY2NYNYNYNYNY",
  "N2YNY2N4YN7YN4YN4YNYN10YN17Y5N3YN5YN17Y987460N"]).yes

def otherUppercase : CharSet := .ofCodes [
  (0x2160, 0x216F), (0x24B6, 0x24CF), (0x1F130, 0x1F149), (0x1F150, 0x1F169), (0x1F170, 0x1F189)]

def patternSyntax : CharSet := .ofCodes [
  (0x21, 0x2F), (0x3A, 0x40), (0x5B, 0x5E), (0x60, 0x60), (0x7B, 0x7E), (0xA1, 0xA7),
  (0xA9, 0xA9), (0xAB, 0xAC), (0xAE, 0xAE), (0xB0, 0xB1), (0xB6, 0xB6), (0xBB, 0xBB),
  (0xBF, 0xBF), (0xD7, 0xD7), (0xF7, 0xF7), (0x2010, 0x2027), (0x2030, 0x203E), (0x2041, 0x2053),
  (0x2055, 0x205E), (0x2190, 0x245F), (0x2500, 0x2775), (0x2794, 0x2BFF), (0x2E00, 0x2E7F),
  (0x3001, 0x3003), (0x3008, 0x3020), (0x3030, 0x3030), (0xFD3E, 0xFD3F), (0xFE45, 0xFE46)]

def patternWhiteSpace : CharSet := .ofCodes [
  (0x9, 0xD), (0x20, 0x20), (0x85, 0x85), (0x200E, 0x200F), (0x2028, 0x2029)]

def prependedConcatenationMark : CharSet := .ofCodes [
  (0x600, 0x605), (0x6DD, 0x6DD), (0x70F, 0x70F), (0x890, 0x891), (0x8E2, 0x8E2),
  (0x110BD, 0x110BD), (0x110CD, 0x110CD)]

def quotationMark : CharSet := .ofCodes [
  (0x22, 0x22), (0x27, 0x27), (0xAB, 0xAB), (0xBB, 0xBB), (0x2018, 0x201F), (0x2039, 0x203A),
  (0x2E42, 0x2E42), (0x300C, 0x300F), (0x301D, 0x301F), (0xFE41, 0xFE44), (0xFF02, 0xFF02),
  (0xFF07, 0xFF07), (0xFF62, 0xFF63)]

def radical : CharSet := .ofCodes [(0x2E80, 0x2E99), (0x2E9B, 0x2EF3), (0x2F00, 0x2FD5)]

def regionalIndicator : CharSet := .ofCodes [(0x1F1E6, 0x1F1FF)]

def sentenceTerminal : CharSet := (Table.ofLines [
  "33NY12NY16NY1353NY147N3Y180NY43N3Y246NY61NYNY3N2Y293N2Y1764N2Y790NY4N2Y773NY198N2Y157N2Y45NY5N",
  "Y314N2Y354N4Y162N2Y10N2Y2N2Y29N3Y187N2Y65N2Y932NY23N2Y9N3Y3247N3Y306NY13NY22N2Y429NY29948NY",
  "270N2Y227NY3NY382N2Y86N2Y95NY152N2Y147N3Y144N2Y249NY18982NY2N2Y59NY3N2Y169NY12NY16NY65NY2804N",
  "2Y1277N5Y44N4Y189N2Y117N4Y127N3Y129N2Y6NY16N2Y88N2YN2Y108NY298N2Y117N2Y373N2Y5N15Y105N2Y249N3Y",
  "517NYNY251N2Y87N2Y420N2Y692N2Y74N2Y19241N2Y133NY65N2Y11NY553N2Y296NY19974NY7656NY992631N"]).yes

def softDotted : CharSet := .ofCodes [
  (0x69, 0x6A), (0x12F, 0x12F), (0x249, 0x249), (0x268, 0x268), (0x29D, 0x29D), (0x2B2, 0x2B2),
  (0x3F3, 0x3F3), (0x456, 0x456), (0x458, 0x458), (0x1D62, 0x1D62), (0x1D96, 0x1D96),
  (0x1DA4, 0x1DA4), (0x1DA8, 0x1DA8), (0x1E2D, 0x1E2D), (0x1ECB, 0x1ECB), (0x2071, 0x2071),
  (0x2148, 0x2149), (0x2C7C, 0x2C7C), (0x1D422, 0x1D423), (0x1D456, 0x1D457), (0x1D48A, 0x1D48B),
  (0x1D4BE, 0x1D4BF), (0x1D4F2, 0x1D4F3), (0x1D526, 0x1D527), (0x1D55A, 0x1D55B),
  (0x1D58E, 0x1D58F), (0x1D5C2, 0x1D5C3), (0x1D5F6, 0x1D5F7), (0x1D62A, 0x1D62B),
  (0x1D65E, 0x1D65F), (0x1D692, 0x1D693), (0x1DF1A, 0x1DF1A), (0x1E04C, 0x1E04D),
  (0x1E068, 0x1E068)]

def terminalPunctuation : CharSet := (Table.ofLines [
  "33NY10NYNY11N2Y3NY830NY8NY513NY57NY72NY14NYN3Y180NY43N11YNY235N2Y54N6YN8Y31NY261N2Y1268N2Y172N",
  "Y4N6Y311N2Y789N8Y773NY124N3Y71N2Y157N3Y3NY39N4Y2N2Y314N2Y354N4Y162N2Y10N2YN3Y29N3Y187N5Y62N2Y",
  "932NY23N2Y9N3Y3247N3Y306NY13NY4NY10NYN2Y3N2Y428N2Y29947N2Y269N3Y227N5Y382N2Y86N2Y95NY151N3Y",
  "147N3Y127NY16N2Y249NY18982NY2N2Y57N3YN4Y169NY10NYNY11N2Y3NY65NY2NY1082NY48NY1158NY199NY310N2Y",
  "152N6Y68N6Y89N4Y952N5Y44N4Y189N7Y112N4Y127N3Y129N2Y6NY16N2Y88N5Y108NY298N2Y117N3Y12N2Y358N4Y3N",
  "15Y105N2Y249N3Y517NYNY251N2Y87N2Y4N2Y414N3Y45NY645N2Y74N2Y1323N5Y17913N2Y133NY65N3Y10NY553N2Y",
  "295N2Y19974NY7655N4Y992629N"]).yes

def unifiedIdeograph : CharSet := .ofCodes [
  (0x3400, 0x4DBF), (0x4E00, 0x9FFF), (0xFA0E, 0xFA0F), (0xFA11, 0xFA11), (0xFA13, 0xFA14),
  (0xFA1F, 0xFA1F), (0xFA21, 0xFA21), (0xFA23, 0xFA24), (0xFA27, 0xFA29), (0x20000, 0x2A6DF),
  (0x2A700, 0x2B739), (0x2B740, 0x2B81D), (0x2B820, 0x2CEA1), (0x2CEB0, 0x2EBE0),
  (0x2EBF0, 0x2EE5D), (0x30000, 0x3134A), (0x31350, 0x323AF)]

def variationSelector : CharSet := .ofCodes [
  (0x180B, 0x180D), (0x180F, 0x180F), (0xFE00, 0xFE0F), (0xE0100, 0xE01EF)]

def whiteSpace : CharSet := .ofCodes [
  (0x9, 0xD), (0x20, 0x20), (0x85, 0x85), (0xA0, 0xA0), (0x1680, 0x1680), (0x2000, 0x200A),
  (0x2028, 0x2029), (0x202F, 0x202F), (0x205F, 0x205F), (0x3000, 0x3000)]

end Fixture.Unicode
