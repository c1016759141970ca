import Fixture.Unicode.CharSet

/-! How characters part a text: into what is read as one character, words and sentences. -/
namespace Fixture.Unicode

/-- A property by which texts are parted: the code of each value with its names, and the table. -/
structure Break where
  names : List (String × List String)
  table : Table

namespace Break

/-- The characters of the value with this name. -/
def chars? (b : Break) (name : String) : Option CharSet :=
  (b.names.find? fun e => e.2.contains name).map fun e => b.table.chars (· == e.1)

def graphemeTable : Table := .ofLines [
  "10CnLf2CnCr18Cn95Xx33Cn13XxCn594Xx112Ex275Xx7Ex263Xx45ExXxExXx2ExXx2ExXxEx56Xx6Pp10Xx11ExXxCn",
  "46Xx21Ex16XxEx101Xx7ExPpXx6Ex2Xx2ExXx4Ex33XxPpXxEx30Xx27Ex91Xx11Ex58Xx9Ex9XxEx24Xx4ExXx9ExXx",
  "3ExXx5Ex43Xx3Ex52Xx2Pp5Xx9Ex42Xx24ExPp32ExSm54XxExSmExXx3Sm8Ex4SmEx2SmXx7Ex10Xx2Ex29XxEx2Sm",
  "56XxExXxEx2Sm4Ex2Xx2Sm2Xx2SmEx9XxEx10Xx2Ex26XxEx2Xx2ExSm56XxExXx3Sm2Ex4Xx2Ex2Xx3Ex3XxEx30Xx2Ex",
  "3XxEx11Xx2ExSm56XxExXx3Sm5ExXx2ExSmXx2SmEx20Xx2Ex22Xx6ExXxEx2Sm56XxExXx2ExSm4Ex2Xx2Sm2Xx2SmEx",
  "7Xx3Ex10Xx2Ex30XxEx59XxExSmEx2Sm3Xx3SmXx3SmEx9XxEx40XxEx3SmEx55XxExXx3Ex4SmXx3ExXx4Ex7Xx2Ex",
  "11Xx2Ex29XxEx2Sm56XxExXxSm2ExSmEx2SmXx3ExXx4Ex7Xx2Ex11Xx2Ex15XxSm12Xx2Ex2Sm55Xx2ExXxEx2Sm4ExXx",
  "3SmXx3SmExPp8XxEx10Xx2Ex29XxEx2Sm70XxEx4XxEx2Sm3ExXxExXx7SmEx18Xx2Sm61XxExXxSm7Ex12Xx8Ex98XxEx",
  "XxSm9Ex11Xx7Ex73Xx2Ex27XxExXxExXxEx4Xx2Sm49Xx14ExSm5ExXx2Ex5Xx11ExXx36Ex9XxEx102Xx4ExSm6ExXx",
  "2Ex2Sm2Ex23Xx2Sm2Ex4Xx3Ex16Xx4Ex13XxExXxSm2Ex6XxEx15XxEx98Xx96L72V88T349Xx3Ex946Xx4Ex28Xx3Ex",
  "29Xx2Ex30Xx2Ex64Xx2ExSm7Ex8SmEx2Sm11Ex9XxEx45Xx3ExCnEx117Xx2Ex34XxEx118Xx3Ex4Sm2Ex3Sm4Xx2SmEx",
  "6Sm3Ex219Xx2Ex2SmEx57XxSmExSm7ExXxExXxEx2Xx8Ex6Sm10Ex2XxEx48Xx31Ex49Xx4ExSm47Xx10Ex4Sm3Ex38Xx",
  "9Ex12Xx2ExSm30XxSm4Ex2Sm6Ex56XxExSm2Ex3SmExSm5Ex48Xx8Sm8Ex2Sm2Ex152Xx3ExXx13ExSm7Ex4XxEx6XxEx",
  "2XxSm2Ex198Xx64Ex523XxCnExZwj2Cn24Xx7Cn49Xx16Cn96Xx33Ex3070Xx3Ex141XxEx96Xx32Ex554Xx6Ex105Xx",
  "2Ex30164Xx4ExXx10Ex32Xx2Ex80Xx2Ex272XxEx3XxEx4XxEx23Xx2Sm2ExSm4XxEx83Xx2Sm50Xx16Sm2Ex26Xx18Ex",
  "13XxEx38Xx8Ex25Xx11ExSmEx12Xx29L3Xx3ExSm47XxEx2Sm4Ex2Sm2Ex2SmEx36XxEx67Xx6Ex2Sm2Ex2Sm2Ex12XxEx",
  "8XxExSm46XxEx51XxExXx3Ex2Xx2Ex5Xx2ExXxEx41XxSm2Ex2Sm5XxSmEx236Xx2SmEx2SmEx2SmXxSmEx18XxLv27Lvt",
  "Lv27LvtLv27LvtLv27LvtLv27LvtLv27LvtLv27LvtLv27LvtLv27LvtLv27LvtLv27LvtLv27LvtLv27LvtLv27LvtLv",
  "27LvtLv27LvtLv27LvtLv27LvtLv27LvtLv27LvtLv27LvtLv27LvtLv27LvtLv27LvtLv27LvtLv27LvtLv27LvtLv",
  "27LvtLv27LvtLv27LvtLv27LvtLv27LvtLv27LvtLv27LvtLv27LvtLv27LvtLv27LvtLv27LvtLv27LvtLv27LvtLv",
  "27LvtLv27LvtLv27LvtLv27LvtLv27LvtLv27LvtLv27LvtLv27LvtLv27LvtLv27LvtLv27LvtLv27LvtLv27LvtLv",
  "27LvtLv27LvtLv27LvtLv27LvtLv27LvtLv27LvtLv27LvtLv27LvtLv27LvtLv27LvtLv27LvtLv27LvtLv27LvtLv",
  "27LvtLv27LvtLv27LvtLv27LvtLv27LvtLv27LvtLv27LvtLv27LvtLv27LvtLv27LvtLv27LvtLv27LvtLv27LvtLv",
  "27LvtLv27LvtLv27LvtLv27LvtLv27LvtLv27LvtLv27LvtLv27LvtLv27LvtLv27LvtLv27LvtLv27LvtLv27LvtLv",
  "27LvtLv27LvtLv27LvtLv27LvtLv27LvtLv27LvtLv27LvtLv27LvtLv27LvtLv27LvtLv27LvtLv27LvtLv27LvtLv",
  "27LvtLv27LvtLv27LvtLv27LvtLv27LvtLv27LvtLv27LvtLv27LvtLv27LvtLv27LvtLv27LvtLv27LvtLv27LvtLv",
  "27LvtLv27LvtLv27LvtLv27LvtLv27LvtLv27LvtLv27LvtLv27LvtLv27LvtLv27LvtLv27LvtLv27LvtLv27LvtLv",
  "27LvtLv27LvtLv27LvtLv27LvtLv27LvtLv27LvtLv27LvtLv27LvtLv27LvtLv27LvtLv27LvtLv27LvtLv27LvtLv",
  "27LvtLv27LvtLv27LvtLv27LvtLv27LvtLv27LvtLv27LvtLv27LvtLv27LvtLv27LvtLv27LvtLv27LvtLv27LvtLv",
  "27LvtLv27LvtLv27LvtLv27LvtLv27LvtLv27LvtLv27LvtLv27LvtLv27LvtLv27LvtLv27LvtLv27LvtLv27LvtLv",
  "27LvtLv27LvtLv27LvtLv27LvtLv27LvtLv27LvtLv27LvtLv27LvtLv27LvtLv27LvtLv27LvtLv27LvtLv27LvtLv",
  "27LvtLv27LvtLv27LvtLv27LvtLv27LvtLv27LvtLv27LvtLv27LvtLv27LvtLv27LvtLv27LvtLv27LvtLv27LvtLv",
  "27LvtLv27LvtLv27LvtLv27LvtLv27LvtLv27LvtLv27LvtLv27LvtLv27LvtLv27LvtLv27LvtLv27LvtLv27LvtLv",
  "27LvtLv27LvtLv27LvtLv27LvtLv27LvtLv27LvtLv27LvtLv27LvtLv27LvtLv27LvtLv27LvtLv27LvtLv27LvtLv",
  "27LvtLv27LvtLv27LvtLv27LvtLv27LvtLv27LvtLv27LvtLv27LvtLv27LvtLv27LvtLv27LvtLv27LvtLv27LvtLv",
  "27LvtLv27LvtLv27LvtLv27LvtLv27LvtLv27LvtLv27LvtLv27LvtLv27LvtLv27LvtLv27LvtLv27LvtLv27LvtLv",
  "27LvtLv27LvtLv27LvtLv27LvtLv27LvtLv27LvtLv27LvtLv27LvtLv27LvtLv27LvtLv27LvtLv27LvtLv27LvtLv",
  "27LvtLv27LvtLv27LvtLv27LvtLv27LvtLv27LvtLv27LvtLv27LvtLv27LvtLv27LvtLv27LvtLv27LvtLv27LvtLv",
  "27LvtLv27LvtLv27LvtLv27LvtLv27LvtLv27LvtLv27LvtLv27LvtLv27LvtLv27LvtLv27LvtLv27LvtLv27LvtLv",
  "27LvtLv27LvtLv27LvtLv27LvtLv27LvtLv27LvtLv27LvtLv27LvtLv27LvtLv27LvtLv27LvtLv27LvtLv27LvtLv",
  "27LvtLv27LvtLv27LvtLv27LvtLv27LvtLv27LvtLv27LvtLv27LvtLv27LvtLv27LvtLv27LvtLv27LvtLv27LvtLv",
  "27LvtLv27LvtLv27LvtLv27LvtLv27LvtLv27LvtLv27LvtLv27LvtLv27LvtLv27LvtLv27LvtLv27LvtLv27LvtLv",
  "27LvtLv27LvtLv27LvtLv27LvtLv27LvtLv27LvtLv27LvtLv27LvtLv27LvtLv27LvtLv27LvtLv27LvtLv27LvtLv",
  "27LvtLv27LvtLv27LvtLv27LvtLv27LvtLv27LvtLv27LvtLv27LvtLv27LvtLv27LvtLv27LvtLv27LvtLv27LvtLv",
  "27LvtLv27LvtLv27LvtLv27LvtLv27LvtLv27LvtLv27LvtLv27LvtLv27LvtLv27LvtLv27LvtLv27LvtLv27LvtLv",
  "27LvtLv27LvtLv27LvtLv27LvtLv27LvtLv27LvtLv27LvtLv27LvtLv27LvtLv27LvtLv27LvtLv27LvtLv27LvtLv",
  "27LvtLv27LvtLv27LvtLv27LvtLv27LvtLv27LvtLv27LvtLv27LvtLv27LvtLv27LvtLv27LvtLv27LvtLv27LvtLv",
  "27LvtLv27LvtLv27LvtLv27LvtLv27LvtLv27LvtLv27LvtLv27Lvt12Xx23V4Xx49T6946XxEx737Xx16Ex16Xx16Ex",
  "207XxCn158Xx2Ex80Xx12Cn513XxEx226XxEx149Xx5Ex1670Xx3ExXx2Ex5Xx4Ex40Xx3Ex4XxEx165Xx2Ex573Xx4Ex",
  "65Xx5Ex317Xx2Ex79Xx4Ex70Xx11Ex49Xx4Ex122XxSmExSm53Xx15Ex41XxEx2Xx2Ex10Xx3ExSm45Xx3Sm4Ex2Sm2Ex",
  "2XxPp4XxEx10XxPp50Xx3Ex36Xx5ExSm8Ex16Xx2Sm44XxEx12Xx2ExSm48Xx3Sm9ExSmExXx2Pp5Xx4ExXxSmEx92Xx",
  "3Sm3Ex2Sm4Ex6XxEx2XxEx157XxEx3Sm8Ex21Xx2Ex2Sm55Xx2ExXxExSmEx4Sm2Xx2Sm2Xx2SmEx9XxEx10Xx2Sm2Xx",
  "7Ex3Xx5Ex67XxEx2Sm6ExXxEx2XxExXx3ExSmXx2Sm3ExPpEx14Xx2Ex82Xx3Sm8Ex2Sm3ExSmEx23XxEx81XxEx2Sm6Ex",
  "SmEx2SmExSm2ExSm2Ex235XxEx2Sm4Ex2Xx4Sm2ExSm2Ex27Xx2Ex82Xx3Sm8Ex2SmExSm2Ex106XxExSmEx2Sm8Ex",
  "101XxExSmEx2Xx4ExSm5Ex256Xx3Sm9ExSm2Ex245XxEx5SmXx2Sm2Xx4ExPpSmPpSmEx141Xx3Sm4Ex2Xx2Ex4SmEx3Xx",
  "Sm28Xx10Ex40Xx6ExSmPp4Ex8XxEx9Xx6Ex2Sm3Ex40Xx6Pp13ExSm2Ex405XxSm7ExXx6ExSmEx82Xx22ExXxSm7ExSm",
  "2ExSm2Ex122Xx6Ex3XxExXx2ExXx7ExPpEx66Xx5SmXx2ExXx2SmExSmEx347Xx2Ex2Sm9Xx2ExPpSm48Xx2Sm5Ex3Xx",
  "2Sm3Ex23XxEx5333Xx16CnEx6Xx15Ex11464Xx12Ex3Sm3Ex2496Xx5Ex59Xx7Ex556XxV3Xx4V484XxExXx55Sm7Xx4Ex",
  "81XxEx11Xx2Ex19627Xx2ExXx4Cn4700Xx46Ex2Xx23Ex542Xx5Ex3Xx6Ex8Cn8Ex2Xx7Ex30Xx4Ex148Xx3Ex1979Xx",
  "55Ex4Xx50Ex8XxEx14XxEx22Xx5ExXx15Ex1360Xx7ExXx17Ex2Xx7ExXx2ExXx5Ex100XxEx160Xx7Ex375XxEx61Xx",
  "4Ex508Xx4Ex254Xx2Ex736Xx7Ex109Xx7Ex2203Xx26Ri507Xx5Ex789504Xx32Cn96Ex128Cn240Ex3600Cn192512Xx"]

def grapheme : Break where
  names := [
    ("Cr", ["cr"]), ("Cn", ["cn", "control"]), ("Ex", ["ex", "extend"]), ("L", ["l"]),
    ("Lf", ["lf"]), ("Lv", ["lv"]), ("Lvt", ["lvt"]), ("Pp", ["pp", "prepend"]),
    ("Ri", ["ri", "regionalindicator"]), ("Sm", ["sm", "spacingmark"]), ("T", ["t"]),
    ("V", ["v"]), ("Zwj", ["zwj"])]
  table := graphemeTable

def wordTable : Table := .ofLines [
  "10XxLf2NlCr18XxWsegspaceXxDq4XxSq4XxMnXxMbXx10NuMlMn5Xx26Le4XxExXx26Le10XxNl36XxLe2XxFo7XxLeXx",
  "Ml2XxLe5Xx23LeXx31LeXx480Le6Xx34Le112Extend5LeXx2Le2Xx4LeMnLe6XxLeMl3LeXxLeXx20LeXx83LeXx139Le",
  "Xx7Extend166LeXx38Le2Xx4LeXxLeMl41LeMnLe6Xx45ExtendXxExtendXx2ExtendXx2ExtendXxExtend8Xx27Hl",
  "4Xx4HlLeMl11Xx6Nu6Xx2Mn2Xx11ExtendXxFo3Xx43Le21Extend10NuXxNuMnXx2LeExtend99LeXxLe7ExtendNuXx",
  "6Extend2Le2ExtendXx4Extend2Le10Nu3Le2XxLe15Xx2LeExtend30Le27Extend2Xx89Le11ExtendLe14Xx10Nu",
  "33Le9Extend2Le2XxMnXxLe2XxExtend2Xx22Le4ExtendLe9ExtendLe3ExtendLe5Extend18Xx25Le3Extend4Xx",
  "11Le5Xx24LeXx6LeXx2Nu5Xx9Extend42Le24ExtendNu33Extend54Le3ExtendLe18ExtendLe7Extend10Le2Extend",
  "2Xx10NuXx16Le3ExtendXx8Le2Xx2Le2Xx22LeXx7LeXxLe3Xx4Le2XxExtendLe7Extend2Xx2Extend2Xx3ExtendLe",
  "8XxExtend4Xx2LeXx3Le2Extend2Xx10Nu2Le10XxLeXxExtend2Xx3ExtendXx6Le4Xx2Le2Xx22LeXx7LeXx2LeXx2Le",
  "Xx2Le2XxExtendXx5Extend4Xx2Extend2Xx3Extend3XxExtend7Xx4LeXxLe7Xx10Nu2Extend3LeExtend11Xx",
  "3ExtendXx9LeXx3LeXx22LeXx7LeXx2LeXx5Le2XxExtendLe8ExtendXx3ExtendXx3Extend2XxLe15Xx2Le2Extend",
  "2Xx10Nu9XxLe6ExtendXx3ExtendXx8Le2Xx2Le2Xx22LeXx7LeXx2LeXx5Le2XxExtendLe7Extend2Xx2Extend2Xx",
  "3Extend7Xx3Extend4Xx2LeXx3Le2Extend2Xx10NuXxLe16XxExtendLeXx6Le3Xx3LeXx4Le3Xx2LeXxLeXx2Le3Xx",
  "2Le3Xx3Le3Xx12Le4Xx5Extend3Xx3ExtendXx4Extend2XxLe6XxExtend14Xx10Nu16Xx5Extend8LeXx3LeXx23LeXx",
  "16Le2XxExtendLe7ExtendXx3ExtendXx4Extend7Xx2ExtendXx3Le2XxLe2Xx2Le2Extend2Xx10Nu16XxLe3Extend",
  "Xx8LeXx3LeXx23LeXx10LeXx5Le2XxExtendLe7ExtendXx3ExtendXx4Extend7Xx2Extend6Xx2LeXx2Le2Extend2Xx",
  "10NuXx2LeExtend12Xx4Extend9LeXx3LeXx41Le2ExtendLe7ExtendXx3ExtendXx4ExtendLe5Xx3LeExtend7Xx3Le",
  "2Extend2Xx10Nu10Xx6LeXx3ExtendXx18Le3Xx24LeXx9LeXxLe2Xx7Le3XxExtend4Xx6ExtendXxExtendXx8Extend",
  "6Xx10Nu2Xx2Extend61XxExtend2Xx7Extend12Xx8ExtendXx10Nu87XxExtend2Xx9Extend11Xx7ExtendXx10Nu",
  "38XxLe23Xx2Extend6Xx10Nu11XxExtendXxExtendXxExtend4Xx2Extend8LeXx36Le4Xx20ExtendXx2Extend5Le",
  "11ExtendXx36Extend9XxExtend100Xx20ExtendXx10Nu12Xx4Extend4Xx3ExtendXx3Extend2Xx7Extend3Xx",
  "4Extend13Xx12ExtendXxExtend10Nu4Extend2Xx38LeXxLe5XxLe2Xx43LeXx333LeXx4Le2Xx7LeXxLeXx4Le2Xx",
  "41LeXx4Le2Xx33LeXx4Le2Xx7LeXxLeXx4Le2Xx15LeXx57LeXx4Le2Xx67Le2Xx3Extend32Xx16Le16Xx86Le2Xx6Le",
  "3Xx620Le2Xx17LeWsegspace26Le5Xx75Le3Xx11Le7Xx18Le4Extend9Xx19Le3Extend11Xx18Le2Extend12Xx13Le",
  "Xx3LeXx2Extend64Xx32Extend9XxExtend2Xx10Nu33Xx3ExtendFoExtend10Nu6Xx89Le7Xx5Le2Extend34Le",
  "ExtendLe5Xx70Le10Xx31LeXx12Extend4Xx12Extend10Xx10Nu128Xx11Nu37Xx23Le5Extend57Xx10ExtendXx",
  "29Extend2XxExtend10Nu6Xx10Nu22Xx31Extend49Xx5Extend47Le17Extend8Le3Xx10Nu17Xx9Extend12Xx",
  "3Extend30Le13Extend2Le10Nu44Le14Extend12Xx36Le20Extend8Xx10Nu3Xx3Le10Nu36Le2Xx11Le5Xx43Le2Xx",
  "3Le16Xx3ExtendXx21Extend4LeExtend6LeExtend2Le3ExtendLe5Xx192Le64Extend278Le2Xx6Le2Xx38Le2Xx6Le",
  "2Xx8LeXxLeXxLeXxLeXx31Le2Xx53LeXx7LeXxLe3Xx3LeXx7Le3Xx4Le2Xx6Le4Xx13Le5Xx3LeXx7Le3Xx7Wsegspace",
  "Xx3WsegspaceXxExtendZwj2Fo8Xx2Mb10XxMb2XxMl2Nl5FoEx15Xx2Ex3XxMn15XxEx10XxWsegspace5FoXx10FoXx",
  "Le13XxLe16Xx13Le51Xx33Extend17XxLe4XxLe2Xx10LeXxLe3Xx5Le6XxLeXxLeXxLeXx4LeXx11Le2Xx4Le5Xx5Le",
  "4XxLe17Xx41Le813Xx52Le1814Xx229Le6Xx4Le3Extend2Le12Xx38LeXxLe5XxLe2Xx56Le7XxLe15XxExtend23Le",
  "9Xx7LeXx7LeXx7LeXx7LeXx7LeXx7LeXx7LeXx7LeXx32Extend47XxLe464XxWsegspace4XxLe36Xx6ExtendXx5Ka",
  "5Xx2Le92Xx2Extend2Ka3Xx91KaXx4Ka5Xx43LeXx94Le17Xx32Le48Xx16Ka208Xx47KaXx88Ka27816Xx1165Le67Xx",
  "46Le2Xx269Le3Xx16Le10Nu2Le20Xx47Le4ExtendXx10ExtendXx31Le2Extend80Le2Extend22Xx198Le2Xx2LeXxLe",
  "Xx8Le21Xx16LeExtend3LeExtend4LeExtend23Le5Extend4XxExtend19Xx52Le12Xx2Extend50Le18Extend10Xx",
  "10Nu6Xx18Extend6Le3XxLeXx2LeExtend10Nu28Le8Extend2Xx23Le13Extend12Xx29Le3Xx4Extend47Le14Extend",
  "14XxLe10Nu11XxExtend10Xx10Nu6Xx41Le14Extend9Xx3LeExtend8Le2Extend2Xx10Nu33Xx3Extend50XxExtend",
  "Xx3Extend2Xx2Extend5Xx2ExtendXxExtend30Xx11Le5Extend2Xx3Le2Extend10Xx6Le2Xx6Le2Xx6Le9Xx7LeXx",
  "7LeXx58Le6Xx115Le8ExtendXx2Extend2Xx10Nu6Xx11172Le12Xx23Le4Xx49Le6916Xx7Le12Xx5Le5XxHlExtend",
  "10HlXx13HlXx5HlXxHlXx2HlXx2HlXx10Hl98Le33Xx363Le18Xx64Le2Xx54Le40Xx12Le4Xx16Extend3XxMl12Xx",
  "16Extend3Xx2Ex24Xx3ExMnXxMbXxMnMl26Xx5LeXx135Le2XxFo7XxMb4XxMnXxMbXx10NuMlMn5Xx26Le4XxExXx26Le",
  "11Xx56Ka2Extend31Le3Xx6Le2Xx6Le2Xx6Le2Xx3Le28Xx3Fo4Xx12LeXx26LeXx19LeXx2LeXx15Le2Xx14Le34Xx",
  "123Le69Xx53Le136XxExtend130Xx29Le3Xx49Le15XxExtend31Xx32Le13Xx30Le5Xx38Le5Extend5Xx30Le2Xx36Le",
  "4Xx8LeXx5Le42Xx158Le2Xx10Nu6Xx36Le4Xx36Le4Xx40Le8Xx52Le12Xx11LeXx15LeXx7LeXx2LeXx11LeXx15LeXx",
  "7LeXx2Le3Xx52Le12Xx311Le9Xx22Le10Xx8Le24Xx6LeXx42LeXx9Le69Xx6Le2XxLeXx44LeXx2Le3XxLe2Xx23Le",
  "10Xx23Le9Xx31Le65Xx19LeXx2Le10Xx22Le10Xx26Le70Xx56Le6Xx2Le64XxLe3ExtendXx2Extend5Xx4Extend4Le",
  "Xx3LeXx29Le2Xx3Extend4XxExtend32Xx29Le3Xx29Le35Xx8LeXx28Le2Extend25Xx54Le10Xx22Le10Xx19Le13Xx",
  "18Le110Xx73Le55Xx51Le13Xx51Le13Xx36Le4Extend8Xx10Nu6Xx10Nu28Le3Xx5ExtendXx23Le250Xx42LeXx",
  "2Extend3Xx2Le16Xx3Le55Xx4Extend29Le10XxLe8Xx22Le11Extend31Xx18Le4Extend42Xx21Le27Xx23Le9Xx",
  "3Extend53Le15Extend31Xx10NuExtend2Le2ExtendLe9Xx4Extend45Le11Extend2XxNu4XxExtend10XxNu2Xx25Le",
  "7Xx10Nu6Xx3Extend36Le14ExtendXx10Nu4XxLe2ExtendLe8Xx35LeExtend2XxLe9Xx3Extend48Le14Extend4Le",
  "4Xx4ExtendXx2Extend10NuLeXxLe35Xx18LeXx25Le12Extend6XxExtend2LeExtend62Xx7LeXxLeXx4LeXx15LeXx",
  "10Le7Xx47Le12Extend5Xx10Nu6Xx4ExtendXx8Le2Xx2Le2Xx22LeXx7LeXx2LeXx5LeXx2ExtendLe7Extend2Xx",
  "2Extend2Xx3Extend2XxLe6XxExtend5Xx5Le2Extend2Xx7Extend3Xx5Extend11Xx10LeXxLe2XxLeXx38LeXxLe",
  "9ExtendXxExtend2XxExtendXx4ExtendXx5ExtendLeExtendLe13Xx2Extend29Xx53Le18Extend4Le5Xx10Nu4Xx",
  "Extend3Le30Xx48Le20Extend2LeXxLe8Xx10Nu166Xx47Le7Extend2Xx9Extend23Xx4Le2Extend34Xx48Le",
  "17Extend3XxLe11Xx10Nu38Xx43Le13ExtendLe7Xx10Nu6Xx20Nu57Xx15Extend4Xx10Nu198Xx44Le15Extend101Xx",
  "64Le10Nu21Xx8Le2XxLe2Xx8LeXx2LeXx24Le6ExtendXx2Extend2Xx4ExtendLeExtendLe2Extend12Xx10Nu70Xx",
  "8Le2Xx39Le7Extend2Xx7ExtendLeXxLeExtend27XxLe10Extend40Le7ExtendLe4Extend8XxExtend8XxLe",
  "11Extend46Le16Extend3XxLe18Xx73Le199Xx33Le15Xx10Nu6Xx9LeXx37Le8ExtendXx8ExtendLe15Xx10Nu24Xx",
  "30Le2Xx22ExtendXx14Extend73Xx7LeXx2LeXx38Le6Extend3XxExtendXx2ExtendXx7ExtendLeExtend8Xx10Nu",
  "6Xx6LeXx2LeXx32Le5ExtendXx2ExtendXx5ExtendLe7Xx10Nu310Xx19Le4Extend9Xx2ExtendLeExtend13LeXx",
  "34Le7Extend3Xx5Extend13Xx10NuExtend85XxLe79Xx922Le102Xx111Le17Xx196Le2636Xx97Le15Xx1072Le16Fo",
  "Extend6Le15Extend10Xx3995Le5Xx583Le6841Xx30Le18Extend10Nu1734Xx569Le7Xx31LeXx10Nu6Xx79LeXx10Nu",
  "6Xx30Le2Xx5Extend11Xx48Le7Extend9Xx4Le12Xx10Nu9Xx21Le5Xx19Le432Xx45Le3Xx10Nu198Xx64Le128Xx75Le",
  "4XxExtendLe55Extend7Xx4Extend13Le64Xx2LeXxLeExtend11Xx2Extend16382Xx4KaXx7KaXx2KaXxKa287Xx3Ka",
  "50XxKa14Xx4Ka2712Xx107Le5Xx13Le3Xx9Le7Xx10Le3Xx2ExtendXx4Fo4172Xx10Nu518Xx46Extend2Xx23Extend",
  "542Xx5Extend3Xx6Extend8Fo8Extend2Xx7Extend30Xx4Extend148Xx3Extend443Xx85LeXx71LeXx2Le2XxLe2Xx",
  "2Le2Xx4LeXx12LeXxLeXx7LeXx65LeXx4Le2Xx8LeXx7LeXx28LeXx4LeXx5LeXxLe3Xx7LeXx340Le2Xx25LeXx25LeXx",
  "31LeXx25LeXx31LeXx25LeXx31LeXx25LeXx31LeXx25LeXx8Le2Xx50Nu512Xx55Extend4Xx50Extend8XxExtend",
  "14XxExtend22Xx5ExtendXx15Extend1104Xx31Le6Xx6Le213Xx7ExtendXx17Extend2Xx7ExtendXx2ExtendXx",
  "5Extend5Xx62Le33XxExtend112Xx45Le3Xx7Extend7Le2Xx10Nu4XxLe321Xx30LeExtend17Xx44Le4Extend10Nu",
  "470Xx28Le4Extend10Nu214Xx30Le2ExtendLe10Nu485Xx7LeXx4LeXx2LeXx15LeXx197Le11Xx7Extend41Xx68Le",
  "7ExtendLe4Xx10Nu1190Xx4LeXx27LeXx2LeXxLe2XxLeXx10LeXx4LeXxLeXxLe6XxLe4XxLeXxLeXxLeXx3LeXx2LeXx",
  "Le2XxLeXxLeXxLeXxLeXxLeXx2LeXxLe2Xx4LeXx7LeXx4LeXx4LeXxLeXx10LeXx17Le5Xx3LeXx5LeXx17Le628Xx",
  "26Le6Xx26Le6Xx26Le92Xx26Ri507Xx5Extend2032Xx10Nu787463XxFo30Xx96Extend128Xx240Extend196112Xx"]

def word : Break where
  names := [
    ("Le", ["le", "aletter"]), ("Cr", ["cr"]), ("Dq", ["dq", "doublequote"]),
    ("Extend", ["extend"]), ("Ex", ["ex", "extendnumlet"]), ("Fo", ["fo", "format"]),
    ("Hl", ["hl", "hebrewletter"]), ("Ka", ["ka", "katakana"]), ("Lf", ["lf"]),
    ("Ml", ["ml", "midletter"]), ("Mn", ["mn", "midnum"]), ("Mb", ["mb", "midnumlet"]),
    ("Nl", ["nl", "newline"]), ("Nu", ["nu", "numeric"]), ("Ri", ["ri", "regionalindicator"]),
    ("Sq", ["sq", "singlequote"]), ("Wsegspace", ["wsegspace"]), ("Zwj", ["zwj"])]
  table := wordTable

def sentenceTable : Table := .ofLines [
  "9XxSpLf2SpCr18XxSpStCl4Xx3Cl2Xx2ScAtXx10Nu2Sc3XxStXx26UpClXxCl3Xx26LoClXxCl7XxSe26XxSp9XxLoCl",
  "XxFo7XxLo4XxLoCl4Xx23UpXx7Up24LoXx8LoUpLoUpLoUpLoUpLoUpLoUpLoUpLoUpLoUpLoUpLoUpLoUpLoUpLoUpLo",
  "UpLoUpLoUpLoUpLoUpLoUpLoUpLoUpLoUpLoUpLoUpLoUpLoUpLoUp2LoUpLoUpLoUpLoUpLoUpLoUpLoUpLoUp2LoUpLo",
  "UpLoUpLoUpLoUpLoUpLoUpLoUpLoUpLoUpLoUpLoUpLoUpLoUpLoUpLoUpLoUpLoUpLoUpLoUpLoUpLoUpLoUpLo2UpLo",
  "UpLoUp3Lo2UpLoUpLo2UpLo3Up2Lo4UpLo2UpLo3Up3Lo2UpLo2UpLoUpLoUpLo2UpLoUp2LoUpLo2UpLo3UpLoUpLo2Up",
  "2LoLeUp3Lo4Le2UpLo2UpLo2UpLoUpLoUpLoUpLoUpLoUpLoUpLoUpLoUp2LoUpLoUpLoUpLoUpLoUpLoUpLoUpLoUpLo",
  "Up2Lo2UpLoUpLo3UpLoUpLoUpLoUpLoUpLoUpLoUpLoUpLoUpLoUpLoUpLoUpLoUpLoUpLoUpLoUpLoUpLoUpLoUpLoUp",
  "LoUpLoUpLoUpLoUpLoUpLoUpLoUpLoUpLoUpLoUp7Lo2UpLo2Up2LoUpLo4UpLoUpLoUpLoUpLoUp69LoLe36Lo7Le2Lo",
  "4Xx12Le14Xx5Lo7XxLeXxLe17Xx112ExUpLoUpLoLeXxUpLo2Xx4LoScUp6XxUpXx3UpXxUpXx2UpLo17UpXx9Up35LoUp",
  "2Lo3Up3LoUpLoUpLoUpLoUpLoUpLoUpLoUpLoUpLoUpLoUpLoUpLoUp5LoUpLoXxUpLo2Up2Lo51Up48LoUpLoUpLoUpLo",
  "UpLoUpLoUpLoUpLoUpLoUpLoUpLoUpLoUpLoUpLoUpLoUpLoUpLoUpLoXx7ExUpLoUpLoUpLoUpLoUpLoUpLoUpLoUpLo",
  "UpLoUpLoUpLoUpLoUpLoUpLoUpLoUpLoUpLoUpLoUpLoUpLoUpLoUpLoUpLoUpLoUpLoUpLoUpLo2UpLoUpLoUpLoUpLo",
  "UpLoUpLoUp2LoUpLoUpLoUpLoUpLoUpLoUpLoUpLoUpLoUpLoUpLoUpLoUpLoUpLoUpLoUpLoUpLoUpLoUpLoUpLoUpLo",
  "UpLoUpLoUpLoUpLoUpLoUpLoUpLoUpLoUpLoUpLoUpLoUpLoUpLoUpLoUpLoUpLoUpLoUpLoUpLoUpLoUpLoUpLoUpLoUp",
  "LoUpLoUpLoUpLoUpLoXx38Up2XxLe3XxSc2Xx41LoSt7Xx45ExXxExXx2ExXx2ExXxEx8Xx27Le4Xx5Le12Xx6Nu6Xx2Sc",
  "2Xx11ExXxFo3St43Le21Ex10NuXx2NuXx2LeEx99LeStLe7ExNuXx6Ex2Le2ExXx4Ex2Le10Nu3Le2XxLe3St12XxFoLe",
  "Ex30Le27Ex2Xx89Le11ExLe14Xx10Nu33Le9Ex2Le2XxScStLe2XxEx2Xx22Le4ExLe9ExLe3ExLe5Ex9XxStXxSt3Xx",
  "2StXx25Le3Ex4Xx11Le5Xx24LeXx6LeXx2Nu5Xx9Ex42Le24ExNu33Ex54Le3ExLe18ExLe7Ex10Le2Ex2St10NuXx16Le",
  "3ExXx8Le2Xx2Le2Xx22LeXx7LeXxLe3Xx4Le2XxExLe7Ex2Xx2Ex2Xx3ExLe8XxEx4Xx2LeXx3Le2Ex2Xx10Nu2Le10Xx",
  "LeXxEx2Xx3ExXx6Le4Xx2Le2Xx22LeXx7LeXx2LeXx2LeXx2Le2XxExXx5Ex4Xx2Ex2Xx3Ex3XxEx7Xx4LeXxLe7Xx10Nu",
  "2Ex3LeEx11Xx3ExXx9LeXx3LeXx22LeXx7LeXx2LeXx5Le2XxExLe8ExXx3ExXx3Ex2XxLe15Xx2Le2Ex2Xx10Nu9XxLe",
  "6ExXx3ExXx8Le2Xx2Le2Xx22LeXx7LeXx2LeXx5Le2XxExLe7Ex2Xx2Ex2Xx3Ex7Xx3Ex4Xx2LeXx3Le2Ex2Xx10NuXxLe",
  "16XxExLeXx6Le3Xx3LeXx4Le3Xx2LeXxLeXx2Le3Xx2Le3Xx3Le3Xx12Le4Xx5Ex3Xx3ExXx4Ex2XxLe6XxEx14Xx10Nu",
  "16Xx5Ex8LeXx3LeXx23LeXx16Le2XxExLe7ExXx3ExXx4Ex7Xx2ExXx3Le2XxLe2Xx2Le2Ex2Xx10Nu16XxLe3ExXx8Le",
  "Xx3LeXx23LeXx10LeXx5Le2XxExLe7ExXx3ExXx4Ex7Xx2Ex6Xx2LeXx2Le2Ex2Xx10NuXx2LeEx12Xx4Ex9LeXx3LeXx",
  "41Le2ExLe7ExXx3ExXx4ExLe5Xx3LeEx7Xx3Le2Ex2Xx10Nu10Xx6LeXx3ExXx18Le3Xx24LeXx9LeXxLe2Xx7Le3XxEx",
  "4Xx6ExXxExXx8Ex6Xx10Nu2Xx2Ex13Xx48LeEx2Le7Ex5Xx7Le8ExXx10Nu39Xx2LeXxLeXx5LeXx24LeXxLeXx10LeEx",
  "2Le9ExLe2Xx5LeXxLeXx7ExXx10Nu2Xx4Le32XxLe23Xx2Ex6Xx10Nu11XxExXxExXxEx4Cl2Ex8LeXx36Le4Xx20ExXx",
  "2Ex5Le11ExXx36Ex9XxEx57Xx43Le20ExLe10Nu2St4Xx6Le4Ex4Le3ExLe3Ex2Le7Ex3Le4Ex13Le12ExLeEx10Nu4Ex",
  "2Xx38UpXxUp5XxUp2Xx43LeXxLo332LeXx4Le2Xx7LeXxLeXx4Le2Xx41LeXx4Le2Xx33LeXx4Le2Xx7LeXxLeXx4Le2Xx",
  "15LeXx57LeXx4Le2Xx67Le2Xx3Ex2XxSt4Xx2St23Xx16Le16Xx86Up2Xx6Lo3Xx620LeXxSt17LeSp26Le2Cl3Xx75Le",
  "3Xx11Le7Xx18Le4Ex9Xx19Le3Ex2St9Xx18Le2Ex12Xx13LeXx3LeXx2Ex12Xx52Le32Ex2StXxLe4XxLeEx2Xx10Nu",
  "24XxScSt4XxScStXx3ExFoEx10Nu6Xx89Le7Xx5Le2Ex34LeExLe5Xx70Le10Xx31LeXx12Ex4Xx12Ex8Xx2St10Nu30Le",
  "2Xx5Le11Xx44Le4Xx26Le6Xx11Nu37Xx23Le5Ex4Xx53Le10ExXx29Ex2XxEx10Nu6Xx10Nu13XxLe4St4Xx31Ex49Xx",
  "5Ex47Le17Ex8LeXx2St10Nu2St2Xx2St11Xx9Ex9Xx3St3Ex30Le13Ex2Le10Nu44Le14Ex12Xx36Le20Ex3Xx2St3Xx",
  "10Nu3Xx3Le10Nu36Le2St9LoUpLo5Xx43Le2Xx3Le16Xx3ExXx21Ex4LeEx6LeEx2Le3ExLe5Xx192Lo64ExUpLoUpLoUp",
  "LoUpLoUpLoUpLoUpLoUpLoUpLoUpLoUpLoUpLoUpLoUpLoUpLoUpLoUpLoUpLoUpLoUpLoUpLoUpLoUpLoUpLoUpLoUpLo",
  "UpLoUpLoUpLoUpLoUpLoUpLoUpLoUpLoUpLoUpLoUpLoUpLoUpLoUpLoUpLoUpLoUpLoUpLoUpLoUpLoUpLoUpLoUpLoUp",
  "LoUpLoUpLoUpLoUpLoUpLoUpLoUpLoUpLoUpLoUpLoUpLoUpLoUpLoUpLoUpLoUpLoUpLoUpLoUpLoUpLoUpLoUpLoUpLo",
  "UpLoUp9LoUpLoUpLoUpLoUpLoUpLoUpLoUpLoUpLoUpLoUpLoUpLoUpLoUpLoUpLoUpLoUpLoUpLoUpLoUpLoUpLoUpLo",
  "UpLoUpLoUpLoUpLoUpLoUpLoUpLoUpLoUpLoUpLoUpLoUpLoUpLoUpLoUpLoUpLoUpLoUpLoUpLoUpLoUpLoUpLoUpLoUp",
  "LoUpLoUpLoUpLoUp9Lo8Up6Lo2Xx6Up2Xx8Lo8Up8Lo8Up6Lo2Xx6Up2Xx8LoXxUpXxUpXxUpXxUp8Lo8Up14Lo2Xx8Lo",
  "8Up8Lo8Up8Lo8Up5LoXx2Lo5UpXxLo3Xx3LoXx2Lo5Up3Xx4Lo2Xx2Lo4Up4Xx8Lo5Up5Xx3LoXx2Lo5Up3Xx11SpFo2Ex",
  "2Fo3Xx2Sc3Xx8Cl4XxAt3Xx2Se5FoSp9Xx2ClXx2St7Xx2Cl3St21XxSp5FoXx10FoXxLo11Xx2ClLo13Xx2ClXx13Lo",
  "51Xx33Ex17XxUp4XxUp2XxLo3Up2Lo3UpLoXxUp3Xx5Up6XxUpXxUpXxUpXx4UpXxLo4UpLo4LeLo2Xx2Lo2Up5XxUp4Lo",
  "4XxLo17Xx16Up16Lo3LeUpLo4Le383Xx4Cl29Xx2Cl395Xx26Up26Lo625Xx6Cl7Xx14Cl79Xx2Cl31Xx10Cl403Xx22Cl",
  "63Xx4Cl32Xx2Cl514Xx48Up48LoUpLo3Up2LoUpLoUpLoUpLo4UpLoUp2LoUp8Lo3UpLoUpLoUpLoUpLoUpLoUpLoUpLo",
  "UpLoUpLoUpLoUpLoUpLoUpLoUpLoUpLoUpLoUpLoUpLoUpLoUpLoUpLoUpLoUpLoUpLoUpLoUpLoUpLoUpLoUpLoUpLoUp",
  "LoUpLoUpLoUpLoUpLoUpLoUpLoUpLoUpLoUpLoUpLoUpLoUpLoUpLoUpLoUpLoUpLoUpLoUpLoUp2Lo6XxUpLoUpLo3Ex",
  "UpLo5Xx3St4Xx38LoXxLo5XxLo2Xx56Le7XxLe15XxEx23Le9Xx7LeXx7LeXx7LeXx7LeXx7LeXx7LeXx7LeXx7LeXx",
  "32Ex14Cl14Xx2Cl2Xx10Cl4XxStLe12XxSt5XxCl16Xx2St8Cl419XxSpScSt2Xx3Le10Cl2Xx8ClXx3ClXx9Le6ExXx",
  "5Le2Xx5Le4Xx86Le2Xx2Ex2Xx3LeXx90LeXx4Le5Xx43LeXx94Le17Xx32Le48Xx16Le512Xx6592Le64Xx22157Le67Xx",
  "46LeXxSt269LeXx2St16Le10Nu2Le20XxUpLoUpLoUpLoUpLoUpLoUpLoUpLoUpLoUpLoUpLoUpLoUpLoUpLoUpLoUpLo",
  "UpLoUpLoUpLoUpLoUpLoUpLoUpLoUpLoLe4ExXx10ExXxLeUpLoUpLoUpLoUpLoUpLoUpLoUpLoUpLoUpLoUpLoUpLoUp",
  "LoUpLoUp3Lo2Ex80Le2ExXxSt3XxSt31Xx9Le2XxUpLoUpLoUpLoUpLoUpLoUpLoUp3LoUpLoUpLoUpLoUpLoUpLoUpLo",
  "UpLoUpLoUpLoUpLoUpLoUpLoUpLoUpLoUpLoUpLoUpLoUpLoUpLoUpLoUpLoUpLoUpLoUpLoUpLoUpLoUpLoUpLoUpLoUp",
  "LoUp10LoUpLoUpLo2UpLoUpLoUpLoUpLoUpLoLe2XxUpLoUpLoLeUpLoUp3LoUpLoUpLoUpLoUpLoUpLoUpLoUpLoUpLo",
  "UpLoUpLo5UpLo5UpLoUpLoUpLoUpLoUpLoUpLoUpLoUpLo4UpLoUpLo2UpLo2XxUpLoXxLoXxLoUpLoUpLoUpLoUp21Xx",
  "3LoUpLoLe3Lo7LeEx3LeEx4LeEx23Le5Ex4XxEx19Xx52Le2Xx2St8Xx2Ex50Le18Ex8Xx2St10Nu6Xx18Ex6Le3XxLeXx",
  "2LeEx10Nu28Le8ExXxSt23Le13Ex12Xx29Le3Xx4Ex47Le14Ex7Xx2St5XxLe10Nu6Xx5LeEx10Le10Nu5LeXx41Le14Ex",
  "9Xx3LeEx8Le2Ex2Xx10Nu3Xx3St23Le3XxLe3Ex50LeExLe3Ex2Le2Ex5Le2ExLeExLe24Xx3Le2Xx11Le5Ex2St3Le2Ex",
  "10Xx6Le2Xx6Le2Xx6Le9Xx7LeXx7LeXx43LoXx14Lo6Xx80Lo35Le8ExSt2Ex2Xx10Nu6Xx11172Le12Xx23Le4Xx49Le",
  "6404Xx366Le2Xx106Le38Xx7Lo12Xx5Lo5XxLeEx10LeXx13LeXx5LeXxLeXx2LeXx2LeXx108Le33Xx363Le2Cl16Xx",
  "64Le2Xx54Le40Xx12Le4Xx16Ex2ScSt2Sc2St2Cl7Xx16ExXx2Sc2Xx16Cl2Xx2Cl7Xx2ScAtXx2Sc2StSc6Cl4XxSc",
  "12Xx5LeXx135Le2XxFoXxSt6Xx2Cl2Xx2ScAtXx10Nu2Sc3XxStXx26UpClXxCl3Xx26LoClXxClXx2ClSt2ClScXx56Le",
  "2Ex31Le3Xx6Le2Xx6Le2Xx6Le2Xx3Le28Xx3Fo4Xx12LeXx26LeXx19LeXx2LeXx15Le2Xx14Le34Xx123Le69Xx53Le",
  "136XxEx130Xx29Le3Xx49Le15XxEx31Xx32Le13Xx30Le5Xx38Le5Ex5Xx30Le2Xx36Le4Xx8LeXx5Le42Xx40Up40Lo",
  "78Le2Xx10Nu6Xx36Up4Xx36Lo4Xx40Le8Xx52Le12Xx11UpXx15UpXx7UpXx2UpXx11LoXx15LoXx7LoXx2Lo3Xx52Le",
  "12Xx311Le9Xx22Le10Xx8Le24XxLo2Le3LoXx42LoXx9Lo69Xx6Le2XxLeXx44LeXx2Le3XxLe2Xx23Le10Xx23Le9Xx",
  "31Le65Xx19LeXx2Le10Xx22Le10Xx26Le70Xx56Le6Xx2Le64XxLe3ExXx2Ex5Xx4Ex4LeXx3LeXx29Le2Xx3Ex4XxEx",
  "22Xx2St8Xx29Le3Xx29Le35Xx8LeXx28Le2Ex25Xx54Le10Xx22Le10Xx19Le13Xx18Le110Xx73Le55Xx51Up13Xx51Lo",
  "13Xx36Le4Ex8Xx10Nu6Xx10Nu6Le22Up3Xx5ExXxLe22Lo250Xx42LeXx2Ex3Xx2Le16Xx3Le55Xx4Ex29Le10XxLe8Xx",
  "22Le11Ex4Xx5St22Xx18Le4Ex4St38Xx21Le27Xx23Le9Xx3Ex53Le15Ex2St29Xx10NuEx2Le2ExLe9Xx4Ex45Le11Ex",
  "2XxNu4StEx10XxNu2Xx25Le7Xx10Nu6Xx3Ex36Le14ExXx10NuXx3StLe2ExLe8Xx35LeEx2XxLe9Xx3Ex48Le14Ex4Le",
  "2St2Xx4ExSt2Ex10NuLeXxLeXx2St32Xx18LeXx25Le12Ex2StXx2StXxEx2LeEx62Xx7LeXxLeXx4LeXx15LeXx10LeSt",
  "6Xx47Le12Ex5Xx10Nu6Xx4ExXx8Le2Xx2Le2Xx22LeXx7LeXx2LeXx5LeXx2ExLe7Ex2Xx2Ex2Xx3Ex2XxLe6XxEx5Xx",
  "5Le2Ex2Xx7Ex3Xx5Ex11Xx10LeXxLe2XxLeXx38LeXxLe9ExXxEx2XxExXx4ExXx5ExLeExLe2St11Xx2Ex29Xx53Le",
  "18Ex4Le2St3Xx10Nu4XxEx3Le30Xx48Le20Ex2LeXxLe8Xx10Nu166Xx47Le7Ex2Xx9ExXx2St5Xx15St4Le2Ex34Xx",
  "48Le17Ex2StXxLe11Xx10Nu38Xx43Le13ExLe7Xx10Nu6Xx20Nu28Xx27Le2Xx15Ex4Xx10Nu2Xx3StXx7Le185Xx44Le",
  "15Ex101Xx32Up32Lo10Nu21Xx8Le2XxLe2Xx8LeXx2LeXx24Le6ExXx2Ex2Xx4ExLeExLe2ExStXxSt9Xx10Nu70Xx8Le",
  "2Xx39Le7Ex2Xx7ExLeXxLeEx27XxLe10Ex40Le7ExLe4Ex3Xx2St3XxEx8XxLe11Ex46Le16ExXx2StLe18Xx73Le199Xx",
  "33Le15Xx10Nu6Xx9LeXx37Le8ExXx8ExLe2St13Xx10Nu24Xx30Le2Xx22ExXx14Ex73Xx7LeXx2LeXx38Le6Ex3XxExXx",
  "2ExXx7ExLeEx8Xx10Nu6Xx6LeXx2LeXx32Le5ExXx2ExXx5ExLe7Xx10Nu310Xx19Le4Ex2St7Xx2ExLeEx13LeXx34Le",
  "7Ex3Xx5Ex2St11Xx10NuEx85XxLe79Xx922Le102Xx111Le17Xx196Le2636Xx97Le15Xx1072Le16FoEx6Le15Ex10Xx",
  "3995Le5Xx583Le6841Xx30Le18Ex10Nu1734Xx569Le7Xx31LeXx10Nu4Xx2St79LeXx10Nu6Xx30Le2Xx5ExSt10Xx",
  "48Le7Ex2St7Xx4LeSt11Xx10Nu9Xx21Le5Xx19Le432Xx45LeXx2St10Nu198Xx32Up32Lo24XxSt103Xx75Le4XxExLe",
  "55Ex7Xx4Ex13Le64Xx2LeXxLeEx11Xx2Ex14Xx6136Le8Xx1238Le41Xx10Le8935Xx4LeXx7LeXx2LeXx291Le15XxLe",
  "29Xx3Le2XxLe14Xx4Le8Xx396Le2308Xx107Le5Xx13Le3Xx9Le7Xx10Le3Xx2ExSt4Fo4172Xx10Nu518Xx46Ex2Xx",
  "23Ex542Xx5Ex3Xx6Ex8Fo8Ex2Xx7Ex30Xx4Ex148Xx3Ex443Xx26Up26Lo26Up7LoXx18Lo26Up26LoUpXx2Up2XxUp2Xx",
  "2Up2Xx4UpXx8Up4LoXxLoXx7LoXx11Lo26Up26Lo2UpXx4Up2Xx8UpXx7UpXx26Lo2UpXx4UpXx5UpXxUp3Xx7UpXx26Lo",
  "26Up26Lo26Up26Lo26Up26Lo26Up26Lo26Up26Lo26Up28Lo2Xx25UpXx25LoXx6Lo25UpXx25LoXx6Lo25UpXx25LoXx",
  "6Lo25UpXx25LoXx6Lo25UpXx25LoXx6LoUpLo2Xx50Nu512Xx55Ex4Xx50Ex8XxEx14XxEx3XxSt18Xx5ExXx15Ex",
  "1104Xx10LoLe20Lo6Xx6Lo213Xx7ExXx17Ex2Xx7ExXx2ExXx5Ex5Xx62Lo33XxEx112Xx45Le3Xx7Ex7Le2Xx10Nu4Xx",
  "Le321Xx30LeEx17Xx44Le4Ex10Nu470Xx28Le4Ex10Nu214Xx30Le2ExLe10Nu485Xx7LeXx4LeXx2LeXx15LeXx197Le",
  "11Xx7Ex41Xx34Up34Lo7ExLe4Xx10Nu1190Xx4LeXx27LeXx2LeXxLe2XxLeXx10LeXx4LeXxLeXxLe6XxLe4XxLeXxLe",
  "XxLeXx3LeXx2LeXxLe2XxLeXxLeXxLeXxLeXxLeXx2LeXxLe2Xx4LeXx7LeXx4LeXx4LeXxLeXx10LeXx17Le5Xx3LeXx",
  "5LeXx17Le628Xx26Up6Xx26Up6Xx26Up1260Xx3Cl1399Xx10Nu1030Xx42720Le32Xx4154Le6Xx222Le2Xx5762Le",
  "14Xx7473Le15Xx622Le2466Xx542Le1506Xx4939Le5Xx4192Le711761XxFo30Xx96Ex128Xx240Ex196112Xx"]

def sentence : Break where
  names := [
    ("At", ["at", "aterm"]), ("Cr", ["cr"]), ("Cl", ["cl", "close"]), ("Ex", ["ex", "extend"]),
    ("Fo", ["fo", "format"]), ("Lf", ["lf"]), ("Lo", ["lo", "lower"]), ("Nu", ["nu", "numeric"]),
    ("Le", ["le", "oletter"]), ("Sc", ["sc", "scontinue"]), ("St", ["st", "sterm"]),
    ("Se", ["se", "sep"]), ("Sp", ["sp"]), ("Up", ["up", "upper"])]
  table := sentenceTable

end Break
end Fixture.Unicode
