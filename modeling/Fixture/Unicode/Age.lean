import Fixture.Unicode.CharSet

/-! The version of the standard in which each character was assigned. -/
namespace Fixture.Unicode.Age

/-- The code of each version and the names that stand for it, from the first version on. -/
def names : List (String × List String) := [
  ("A", ["1.1", "v11"]), ("B", ["2.0", "v20"]), ("C", ["2.1", "v21"]), ("D", ["3.0", "v30"]),
  ("E", ["3.1", "v31"]), ("F", ["3.2", "v32"]), ("G", ["4.0", "v40"]), ("H", ["4.1", "v41"]),
  ("I", ["5.0", "v50"]), ("J", ["5.1", "v51"]), ("K", ["5.2", "v52"]), ("L", ["6.0", "v60"]),
  ("M", ["6.1", "v61"]), ("N", ["6.2", "v62"]), ("O", ["6.3", "v63"]), ("P", ["7.0", "v70"]),
  ("Q", ["8.0", "v80"]), ("R", ["9.0", "v90"]), ("S", ["10.0", "v100"]), ("T", ["11.0", "v110"]),
  ("U", ["12.0", "v120"]), ("V", ["12.1", "v121"]), ("W", ["13.0", "v130"]),
  ("X", ["14.0", "v140"]), ("Y", ["15.0", "v150"]), ("Z", ["15.1", "v151"]),
  ("Aa", ["16.0", "v160"])]

def table : Table := .ofLines [
  "502A4D30A8DFG18D3G11H14I89A5D2G47AD10A5D17G70A9DF8G5H3G2AD13F4J2A2J2ZzA3IAP4Zz7AZzAZz20AZz44AJ",
  "7AD2FADADADAD18A2EF5G4HD12AD66AD12AD41AJ2D2F4D53A2F2A2F2A2FI28A2D8A2H2A6I16F4I16J2K2L8PZz38A",
  "2Zz7AT39ATAD2Zz2PMZz17BH13B10AI9AB3H8Zz27A4ZzT5A11Zz4GMP5JHA9G5JAOXHAL26A5J19A3D3G6HL14A2F72A",
  "2D5AD15AD30A2G10A5DG14DZz30D3G27D2Zz3G30H18J49DF14Zz59I2Zz3T46K2Zz15KZz28L2ZzLZz11S5Zz31XZz2X",
  "5ZzAa8XMP11M6P2QX8R10W11XT15RQ27MPK3AG53A2L18AKL5AK2L25A2J5LP2K2IH2IP3AZz8A2Zz2A2Zz22AZz7AZzA",
  "3Zz4A2ZzAG7A2Zz2A2Zz3AH8ZzA4Zz2AZz5A2Zz21AK2ST2ZzGAGZz6A4Zz2A2Zz22AZz7AZz2AZz2AZz2A2ZzAZz5A4Zz",
  "2A2Zz3A3ZzJ7Zz4AZzA7Zz15AJT10Zz3AZz7AGAZz3AZz22AZz7AZz2AZz5A2Zz10AZz3AZz3A2ZzA15ZzA3G2Zz10AMG",
  "7ZzQ6SZz3AZz8A2Zz2A2Zz22AZz7AZz2AZzG4A2Zz8AJ2Zz2A2Zz3A7ZzW2A4Zz2AZz3A2J2Zz11AG6L10Zz2AZz6A3Zz",
  "3AZz4A3Zz2AZzAZz2A3Zz2A3Zz3A3Zz8AH3A4Zz5A3Zz3AZz4A2ZzJ6ZzA14ZzH12A8G5ZzP3AT8AZz3AZz23AZz10AP5A",
  "2ZzXJ7AZz3AZz4A7Zz2AZz2JQ2ZzX2Zz2A2J2Zz10A7ZzU8JRP2AT8AZz3AZz23AZz10AZz5A2Zz2G7AZz3AZz4A7Zz2A",
  "6ZzXAZz2A2I2Zz10AZz2IY12ZzSP2AW8AZz3AZz23AL16AL2SJ6AJZz3AZz4ALR4Zz3RA7RQ2A2J2Zz10A6J3R7JZzW2D",
  "Zz18D3Zz24DZz9DZzD2Zz7D3ZzD4Zz6DZzDZz8D6Zz10P2Zz3D12Zz58A4Zz29A37Zz2AZzAZzU2AUAZzUA6U4AU7AU3A",
  "ZzAZzA2U2AU13AU3A2Zz5AZzAZz6AYZz10A2Zz2A2M32Zz72BZz33BD2J4Zz27B4L6BDBZz21B3D7BDB3DZz15DZzJD2H",
  "3J4K2L37Zz34DJ5DJ2DJ7D3J4D6J26D64J4K2J38AZzM5ZzM2Zz39A2F2HAH3M90A5K68A5K82A6K7DH63DHDZz4D2Zz7D",
  "ZzDZz4D2Zz39DHDZz4D2Zz31DHDZz4D2Zz7DZzDZz4D2Zz7DH7DZz23DH31DHDZz4D2Zz7DH39DH19D2Zz2L2H28D3Zz",
  "26H6Zz85DQ2Zz6Q2ZzK630D9K29D3Zz81D8P7Zz13FX7FX9ZzX23F9Zz20F12Zz13FZz3FZz2F12Zz93DG2Zz10D6Zz10G",
  "6Zz15DX10D6Zz88DT7Zz42DJ5Zz70K10Zz29G2PZz12G4Zz12G4ZzG3Zz42G2Zz5G11Zz42H2K4Zz26H6Zz10HK3Zz2H",
  "32G28H2Zz2H63KZz29K2Zz11K6Zz10K6Zz14K2Zz15P2W14X49Zz76IXZz2Aa45I2XAa43J3M12J6M52L8Zz4L56J3Zz",
  "15J3Zz51J9R2Aa5Zz43T2Zz3T8M8Zz35K4MS2PU5Zz108G88H7I28J15P4SXRLK2I155AB4J90A6J22A2Zz6A2Zz38A2Zz",
  "6A2Zz8AZzAZzAZzAZz31A2Zz53AZz15AZz14A2Zz6AZz19A2Zz3AZz9AZz47AD23AF6D5F2G2HF7H5FJZz4O7AF2Zz27A",
  "Zz5H8L3Zz11ABC3D2F4H3KLN3PQSX15Zz18A2D7FH4IJ15Zz57A2DGH15FH2IJ3K48ADI4JK2Q4Zz91A9D12F242A14FAD",
  "121ADF30D52F2G11H12IK11L7P4RS37A2D3Aa22Zz11A21Zz139A20FG150A10F80A8D8F20A2G2FHD86A2D12F2H10F8G",
  "11HJ2K2G16HI10J3K4J10KL19KLK4L24KP4AL4A2L28AL35ALAL4A3LAK7A2L7A14F31A3L24AL14AL7H4IMJM2L28F4J",
  "16F256D512F14G6H7I5J4I41J3P5J5K26P2Zz32PZzW34P3T12PU8PS25T4Q15TU47HX47HX13I3JK3J4I6J2K107H7K2M",
  "5Zz45HZzM5ZzM2Zz54H2M7ZzHL14ZzL23H9Zz7HZz7HZz7HZz7HZz7HZz7HZz7HZz7HZz32J24H4J2H19JK10M7P2R5S5T",
  "U3W11X34Zz26DZz89D12Zz214D26Zz12D4Z56A3D3FDAZz84A2F2Zz6A2F94AF5Zz40AJSTZz94AZz16A24D3L5W16H20J",
  "2Aa9ZzZ16F29A2GZz36A12KG15F28A2GH50A15F12A4G47AV119A4G99A2G31AG6582D10W64G20902A22H8J8KM9Q21S",
  "5T13W3X1165D3Zz18D2F16DF12DF3DFD9Zz48K300J20Zz32J2L18J8M28J6PQM88K8Zz23H4I5J2I107J2LQ2L2M12P",
  "10LM3PRT2P6Q2T6U2X5U4W3Aa2Zz2XZzXZz5X3Aa21Zz3X2WP2ML5J44HW3Zz10K6Zz56I8Zz69JR8Zz12J6Zz28K2Q2T",
  "84J11ZzJ29K3Zz78KZz11K4Zz2K31PZz55J9Zz14J2Zz10J2Zz4J28K4P67K24Zz5K23M10Zz6L2Zz6L2Zz6L9Zz7LZz7L",
  "Zz48P4Q2P2U4W4Zz80Q46K2Zz10K6Zz11172B12Zz23K4Zz49K4Zz6702A2M59F3K2Zz106H38Zz7A12Zz5A5ZzD25AZz",
  "5AZzAZz2AZz2AZz108A16LX16Zz365A16X64A2Zz54A7ZzX32E12AFG2X16F10H6Zz4A3J7P2Q21A2F2G10AZz19AZz4A",
  "4Zz3AFAZz135A2ZzAZz94A2F94A3Zz6A2Zz6A2Zz6A2Zz3A3Zz7AZz7A10Zz3DC3A12GZz26GZz19GZz2GZz15G2Zz14G",
  "34Zz123G5Zz3G4Zz45G3Zz9G75H2P2RZz12JW3ZzP47Zz46J130Zz29J3Zz49J15Zz28P4Zz31EP4E9Zz3S27E5Zz43P",
  "5Zz30GZzG36H4Zz14H42Zz38E2G38E80G2Zz10G6Zz36R4Zz36R4Zz40P8Zz52P11ZzP11XZz15XZz7XZz2XZz11XZz15X",
  "Zz7XZz2X3Zz52Aa12Zz311P9Zz22P10Zz8P24Zz6XZz42XZz9X69Zz6G2ZzGZz44GZz2G3ZzG2ZzG22KZz9K63P8Zz9P",
  "48Zz19QZz2Q5Zz5Q26I2K3ZzI26J5ZzJ64Zz56M4Zz2Q2M16Q2Zz46Q4HZz2H5Zz8HZz3HZz27H2T2Zz3H4Zz9HT7Zz9H",
  "7Zz32K32P32Zz39P4Zz12P9Zz54K3Zz29K2Zz27K5Zz8K18P7Zz4P12Zz7P80Zz73K55Zz51Q13Zz51Q7Zz6Q40T8Zz10T",
  "6Zz38Aa3Zz29Aa8Zz2Aa208Zz31KZz42WZz3W2Zz2W16Zz3Aa55ZzAa3Y40T8Zz42T22Zz26X38Zz28W20Zz23U9Zz78L",
  "4Zz30L6X9ZzP66KX10ZzT2Zz25M7Zz10M6Zz53MZz14M3TW8Zz39P9Zz73M4QP2W10MP5QZz20P11Zz18PZz43PR3Y62Zz",
  "7QZzQZz4QZz15QZz11Q6Zz59P5Zz10P6ZzQ3PZz8P2Zz2P2Zz22PZz7PZz2PZz5PZzT9P2Zz2P2Zz3P2ZzQ6ZzP5Zz7P",
  "2Zz7P3Zz5P11Zz10AaZzAa2ZzAaZz38AaZz10AaZzAa2ZzAaZz4AaZz10AaZz2Aa8Zz2Aa29Zz90RWRZzRTU2W30Zz72P",
  "8Zz10P166Zz54P2Zz18P20Q34Zz69P11Zz10P6Zz13R19Zz56MUX6Zz10M6Zz20Aa28Zz26QT2Zz15Q4Zz16Q7X185Zz",
  "60T100Zz83P12ZzP7W2ZzW2Zz8WZz2WZz30WZz2W2Zz12W9Zz10W70Zz8U2Zz46U2Zz11U27Zz72S8Zz52S2U23ST5S",
  "13Zz16X57P7Zz10Y182Zz34Aa14Zz10Aa6Zz9RZz45RZz14R10Zz29R3Zz32R2Zz22RZz14R73Zz7SZz2SZz44S3ZzSZz",
  "2SZz9S8Zz10S6Zz6TZz2TZz37TZz2TZz6T7Zz10T310Zz25T7Zz17YZz41Y3Zz28YAa85ZzW15Zz50U13ZzU879I42PQ",
  "102Zz99I12PZz4IP11Zz196Q2636Zz99X13Zz1071KY9U29Y10Zz3995Aa5Zz583Q6841Zz58Aa1734Zz569L7Zz31PZz",
  "10P4Zz2P79XZz10X6Zz30P2Zz6P10Zz70P10Zz10PZz7PZz21P5Zz19P432Zz58Aa198Zz91T101Zz69M6U4ZzU47M9U",
  "7Zz17M64ZzRS2UW11Zz2W14Zz6125R5T6U8Zz755R483W41ZzAa9W8935Zz4XZz7XZz2XZz2L285S4X15ZzY29Zz3U2ZzY",
  "14Zz4U8Zz396S2308Zz107P5Zz13P3Zz9P7Zz10P2Zz8P3932Zz250Aa6Zz436Aa76Zz46X2Zz23X9Zz116X60Zz246E",
  "10Zz39E2ZzJ180E11Q2X21Zz70H122Zz20Y12Zz20T12Zz87G9Zz18I7T135Zz85EZz71EZz2E2ZzE2Zz2E2Zz4EZz12E",
  "ZzEZz4EG2EZz65EZz4E2Zz8EZz7EZz28EZz4EZz5EZzE3Zz7EZz338E2H2Zz290E2I2Zz50E652Q15Zz5QZz15Q1104Zz",
  "31X6Zz6Y213Zz7RZz17R2Zz7RZz2RZz5R5Zz62Y33ZzY112Zz45U3Zz14U2Zz10U4Zz2U320Zz31X17Zz58U5ZzU464Zz",
  "42Y214Zz43Aa4ZzAa480Zz7XZz4XZz2XZz15XZz197P2Zz16P41Zz75RU4Zz10R4Zz2R785Zz68T76Zz61U194Zz4MZz",
  "27MZz2MZzM2ZzMZz10MZz4MZzMZzM6ZzM4ZzMZzMZzMZz3MZz2MZzM2ZzMZzMZzMZzMZzMZz2MZzM2Zz4MZz7MZz4MZz4M",
  "ZzMZz10MZz17M5Zz3MZz5MZz17M52Zz2M270Zz44J4Zz100J12Zz15L2Zz14LPZz15LZz15L22P10Zz11K2P3W31KTLK",
  "11LKLK2LK3LK3L5K8LK7LK10L2MU3W9LKL2K2LK10L4K2LK10L18RW56Zz26LK2L13Zz34K9LR4Zz9K7Zz2L14Zz6S",
  "154Zz33L12P3Q6LP70LP2Q20L12P37LP5L4P5Q12P17L7P8Q63LPLP182LP4L2PQ62L2P4M7P5Q24L18PR41PR86P5LM",
  "16LM3LMLMLMLM3LM6L2M4LML2M4LM12L2P2Q11L48P70L10PQ2R2SU2W4ZzY3X13P3Zz4P3R2STU2W3Zz116L3Y4Zz5Y",
  "85P4TY6Zz12U4ZzX15Zz12P4Zz56P8Zz10P6Zz40P8Zz30P2Zz2W10Aa4Zz2Aa62Zz12SW3U9Q6RS8R8SR2S12RU12RS3T",
  "15R13S5TUW4T2WXTU4T5Q13R6S11T2W6U3W2U10T6UQ2T8UWX3U23S25T84U12Zz14T2Zz4UW3Y3U2X3Zz3U4W2YAa5Zz",
  "Aa6U19W4X3Y7W4X3YAaY3W3XAa7Zz2Y7W3X2YAa2ZzAa8XYAa6Zz7X2Y7Zz147WZz55W37Aa10W1028Zz2B42711E7W2X",
  "32Zz4149K4XY6Zz222L2Zz5762Q14Zz7473S15Zz622Z2466Zz542E1504Zz2B4939W5Zz4192Y56398Zz2B65534Zz2B",
  "65534Zz2B65534Zz2B65534Zz2B65534Zz2B65534Zz2B65534Zz2B65534Zz2B65534Zz2B65534Zz2BZzE30Zz96E",
  "128Zz240G65038Zz131074B"]

/-- The characters assigned in the named version or before it. -/
def chars? (name : String) : Option CharSet :=
  if names.any fun e => e.2.contains name then
    let later := (names.dropWhile fun e => !e.2.contains name).drop 1
    some (table.chars fun code => code != "Zz" && !later.any fun e => e.1 == code)
  else none

end Fixture.Unicode.Age
