import Timex.Locale.Basic

/-!
# Locale data

The locales of the library. The first one of a language stands for the language.
-/

namespace Timex.Locale

def enUS : Locale where
  identifier := "en_US"
  daysWide := #v["Monday", "Tuesday", "Wednesday", "Thursday", "Friday", "Saturday", "Sunday"]
  daysAbbreviated := #v["Mon", "Tue", "Wed", "Thu", "Fri", "Sat", "Sun"]
  monthsWide := #v["January", "February", "March", "April", "May", "June", "July", "August",
    "September", "October", "November", "December"]
  monthsAbbreviated := #v["Jan", "Feb", "Mar", "Apr", "May", "Jun", "Jul", "Aug", "Sep", "Oct",
    "Nov", "Dec"]
  date := ⟨"M/d/yy", "MMM d, y", "MMMM d, y", "EEEE, MMMM d, y"⟩
  time := ⟨"h:mm\u202fa", "h:mm:ss\u202fa", "h:mm:ss\u202fa z", "h:mm:ss\u202fa zzzz"⟩
  yearMonth := "M/y"
  monthDay := "M/d"
  joining := "\x7b1\x7d, \x7b0\x7d"
  am := "AM"
  pm := "PM"
  utc := "Coordinated Universal Time"

def enGB : Locale where
  identifier := "en_GB"
  daysWide := #v["Monday", "Tuesday", "Wednesday", "Thursday", "Friday", "Saturday", "Sunday"]
  daysAbbreviated := #v["Mon", "Tue", "Wed", "Thu", "Fri", "Sat", "Sun"]
  monthsWide := #v["January", "February", "March", "April", "May", "June", "July", "August",
    "September", "October", "November", "December"]
  monthsAbbreviated := #v["Jan", "Feb", "Mar", "Apr", "May", "Jun", "Jul", "Aug", "Sept", "Oct",
    "Nov", "Dec"]
  date := ⟨"dd/MM/y", "d MMM y", "d MMMM y", "EEEE, d MMMM y"⟩
  time := ⟨"HH:mm", "HH:mm:ss", "HH:mm:ss z", "HH:mm:ss zzzz"⟩
  yearMonth := "MM/y"
  monthDay := "dd/MM"
  joining := "\x7b1\x7d, \x7b0\x7d"
  am := "am"
  pm := "pm"
  utc := "Coordinated Universal Time"

def deDE : Locale where
  identifier := "de_DE"
  daysWide := #v["Montag", "Dienstag", "Mittwoch", "Donnerstag", "Freitag", "Samstag", "Sonntag"]
  daysAbbreviated := #v["Mo.", "Di.", "Mi.", "Do.", "Fr.", "Sa.", "So."]
  monthsWide := #v["Januar", "Februar", "März", "April", "Mai", "Juni", "Juli", "August",
    "September", "Oktober", "November", "Dezember"]
  monthsAbbreviated := #v["Jan.", "Feb.", "März", "Apr.", "Mai", "Juni", "Juli", "Aug.", "Sept.",
    "Okt.", "Nov.", "Dez."]
  date := ⟨"dd.MM.yy", "dd.MM.y", "d. MMMM y", "EEEE, d. MMMM y"⟩
  time := ⟨"HH:mm", "HH:mm:ss", "HH:mm:ss z", "HH:mm:ss zzzz"⟩
  yearMonth := "M/y"
  monthDay := "d.M."
  joining := "\x7b1\x7d, \x7b0\x7d"
  am := "AM"
  pm := "PM"
  utc := "Koordinierte Weltzeit"

def frFR : Locale where
  identifier := "fr_FR"
  daysWide := #v["lundi", "mardi", "mercredi", "jeudi", "vendredi", "samedi", "dimanche"]
  daysAbbreviated := #v["lun.", "mar.", "mer.", "jeu.", "ven.", "sam.", "dim."]
  monthsWide := #v["janvier", "février", "mars", "avril", "mai", "juin", "juillet", "août",
    "septembre", "octobre", "novembre", "décembre"]
  monthsAbbreviated := #v["janv.", "févr.", "mars", "avr.", "mai", "juin", "juil.", "août",
    "sept.", "oct.", "nov.", "déc."]
  date := ⟨"dd/MM/y", "d MMM y", "d MMMM y", "EEEE d MMMM y"⟩
  time := ⟨"HH:mm", "HH:mm:ss", "HH:mm:ss z", "HH:mm:ss zzzz"⟩
  yearMonth := "MM/y"
  monthDay := "dd/MM"
  joining := "\x7b1\x7d \x7b0\x7d"
  am := "AM"
  pm := "PM"
  utc := "temps universel coordonné"

def esES : Locale where
  identifier := "es_ES"
  daysWide := #v["lunes", "martes", "miércoles", "jueves", "viernes", "sábado", "domingo"]
  daysAbbreviated := #v["lun", "mar", "mié", "jue", "vie", "sáb", "dom"]
  monthsWide := #v["enero", "febrero", "marzo", "abril", "mayo", "junio", "julio", "agosto",
    "septiembre", "octubre", "noviembre", "diciembre"]
  monthsAbbreviated := #v["ene", "feb", "mar", "abr", "may", "jun", "jul", "ago", "sept", "oct",
    "nov", "dic"]
  date := ⟨"d/M/yy", "d MMM y", "d 'de' MMMM 'de' y", "EEEE, d 'de' MMMM 'de' y"⟩
  time := ⟨"H:mm", "H:mm:ss", "H:mm:ss z", "H:mm:ss (zzzz)"⟩
  yearMonth := "M/y"
  monthDay := "d/M"
  joining := "\x7b1\x7d, \x7b0\x7d"
  am := "a.\u202fm."
  pm := "p.\u202fm."
  utc := "tiempo universal coordinado"

def ptBR : Locale where
  identifier := "pt_BR"
  daysWide := #v["segunda-feira", "terça-feira", "quarta-feira", "quinta-feira", "sexta-feira",
    "sábado", "domingo"]
  daysAbbreviated := #v["seg.", "ter.", "qua.", "qui.", "sex.", "sáb.", "dom."]
  monthsWide := #v["janeiro", "fevereiro", "março", "abril", "maio", "junho", "julho", "agosto",
    "setembro", "outubro", "novembro", "dezembro"]
  monthsAbbreviated := #v["jan.", "fev.", "mar.", "abr.", "mai.", "jun.", "jul.", "ago.", "set.",
    "out.", "nov.", "dez."]
  date := ⟨"dd/MM/y", "d 'de' MMM 'de' y", "d 'de' MMMM 'de' y", "EEEE, d 'de' MMMM 'de' y"⟩
  time := ⟨"HH:mm", "HH:mm:ss", "HH:mm:ss z", "HH:mm:ss zzzz"⟩
  yearMonth := "MM/y"
  monthDay := "dd/MM"
  joining := "\x7b1\x7d \x7b0\x7d"
  am := "AM"
  pm := "PM"
  utc := "Horário Universal Coordenado"

def trTR : Locale where
  identifier := "tr_TR"
  daysWide := #v["Pazartesi", "Salı", "Çarşamba", "Perşembe", "Cuma", "Cumartesi", "Pazar"]
  daysAbbreviated := #v["Pzt", "Sal", "Çar", "Per", "Cum", "Cmt", "Paz"]
  monthsWide := #v["Ocak", "Şubat", "Mart", "Nisan", "Mayıs", "Haziran", "Temmuz", "Ağustos",
    "Eylül", "Ekim", "Kasım", "Aralık"]
  monthsAbbreviated := #v["Oca", "Şub", "Mar", "Nis", "May", "Haz", "Tem", "Ağu", "Eyl", "Eki",
    "Kas", "Ara"]
  date := ⟨"d.MM.y", "d MMM y", "d MMMM y", "d MMMM y EEEE"⟩
  time := ⟨"HH:mm", "HH:mm:ss", "HH:mm:ss z", "HH:mm:ss zzzz"⟩
  yearMonth := "MM/y"
  monthDay := "d/M"
  joining := "\x7b1\x7d \x7b0\x7d"
  am := "ÖÖ"
  pm := "ÖS"
  utc := "Eş Güdümlü Evrensel Zaman"

def ruRU : Locale where
  identifier := "ru_RU"
  daysWide := #v["понедельник", "вторник", "среда", "четверг", "пятница", "суббота", "воскресенье"]
  daysAbbreviated := #v["пн", "вт", "ср", "чт", "пт", "сб", "вс"]
  monthsWide := #v["января", "февраля", "марта", "апреля", "мая", "июня", "июля", "августа",
    "сентября", "октября", "ноября", "декабря"]
  monthsAbbreviated := #v["янв.", "февр.", "мар.", "апр.", "мая", "июн.", "июл.", "авг.", "сент.",
    "окт.", "нояб.", "дек."]
  date := ⟨"dd.MM.y", "d MMM y\u202f'г'.", "d MMMM y\u202f'г'.", "EEEE, d MMMM y\u202f'г'."⟩
  time := ⟨"HH:mm", "HH:mm:ss", "HH:mm:ss z", "HH:mm:ss zzzz"⟩
  yearMonth := "MM.y"
  monthDay := "dd.MM"
  joining := "\x7b1\x7d, \x7b0\x7d"
  am := "AM"
  pm := "PM"
  utc := "Всемирное координированное время"

def jaJP : Locale where
  identifier := "ja_JP"
  daysWide := #v["月曜日", "火曜日", "水曜日", "木曜日", "金曜日", "土曜日", "日曜日"]
  daysAbbreviated := #v["月", "火", "水", "木", "金", "土", "日"]
  monthsWide := #v["1月", "2月", "3月", "4月", "5月", "6月", "7月", "8月", "9月", "10月", "11月", "12月"]
  monthsAbbreviated := #v["1月", "2月", "3月", "4月", "5月", "6月", "7月", "8月", "9月", "10月", "11月",
    "12月"]
  date := ⟨"y/MM/dd", "y/MM/dd", "y年M月d日", "y年M月d日EEEE"⟩
  time := ⟨"H:mm", "H:mm:ss", "H:mm:ss z", "H時mm分ss秒 zzzz"⟩
  yearMonth := "y/M"
  monthDay := "M/d"
  joining := "\x7b1\x7d \x7b0\x7d"
  am := "午前"
  pm := "午後"
  utc := "協定世界時"

def zhCN : Locale where
  identifier := "zh_CN"
  daysWide := #v["星期一", "星期二", "星期三", "星期四", "星期五", "星期六", "星期日"]
  daysAbbreviated := #v["周一", "周二", "周三", "周四", "周五", "周六", "周日"]
  monthsWide := #v["一月", "二月", "三月", "四月", "五月", "六月", "七月", "八月", "九月", "十月", "十一月", "十二月"]
  monthsAbbreviated := #v["1月", "2月", "3月", "4月", "5月", "6月", "7月", "8月", "9月", "10月", "11月",
    "12月"]
  date := ⟨"y/M/d", "y年M月d日", "y年M月d日", "y年M月d日EEEE"⟩
  time := ⟨"HH:mm", "HH:mm:ss", "z HH:mm:ss", "zzzz HH:mm:ss"⟩
  yearMonth := "y/M"
  monthDay := "M/d"
  joining := "\x7b1\x7d \x7b0\x7d"
  am := "上午"
  pm := "下午"
  utc := "协调世界时"

def arEG : Locale where
  identifier := "ar_EG"
  daysWide := #v["الاثنين", "الثلاثاء", "الأربعاء", "الخميس", "الجمعة", "السبت", "الأحد"]
  daysAbbreviated := #v["الاثنين", "الثلاثاء", "الأربعاء", "الخميس", "الجمعة", "السبت", "الأحد"]
  monthsWide := #v["يناير", "فبراير", "مارس", "أبريل", "مايو", "يونيو", "يوليو", "أغسطس", "سبتمبر",
    "أكتوبر", "نوفمبر", "ديسمبر"]
  monthsAbbreviated := #v["يناير", "فبراير", "مارس", "أبريل", "مايو", "يونيو", "يوليو", "أغسطس",
    "سبتمبر", "أكتوبر", "نوفمبر", "ديسمبر"]
  date := ⟨"d\u200f/M\u200f/y", "dd\u200f/MM\u200f/y", "d MMMM y", "EEEE، d MMMM y"⟩
  time := ⟨"h:mm a", "h:mm:ss a", "h:mm:ss a z", "h:mm:ss a zzzz"⟩
  yearMonth := "M\u200f/y"
  monthDay := "d\u200f/M"
  joining := "\x7b1\x7d، \x7b0\x7d"
  am := "ص"
  pm := "م"
  utc := "التوقيت العالمي المنسق"

def svSE : Locale where
  identifier := "sv_SE"
  daysWide := #v["måndag", "tisdag", "onsdag", "torsdag", "fredag", "lördag", "söndag"]
  daysAbbreviated := #v["mån", "tis", "ons", "tors", "fre", "lör", "sön"]
  monthsWide := #v["januari", "februari", "mars", "april", "maj", "juni", "juli", "augusti",
    "september", "oktober", "november", "december"]
  monthsAbbreviated := #v["jan.", "feb.", "mars", "apr.", "maj", "juni", "juli", "aug.", "sep.",
    "okt.", "nov.", "dec."]
  date := ⟨"y-MM-dd", "d MMM y", "d MMMM y", "EEEE d MMMM y"⟩
  time := ⟨"HH:mm", "HH:mm:ss", "HH:mm:ss z", "'kl'. HH:mm:ss zzzz"⟩
  yearMonth := "y-MM"
  monthDay := "d/M"
  joining := "\x7b1\x7d \x7b0\x7d"
  am := "fm"
  pm := "em"
  utc := "Koordinerad universell tid"

def table : List Locale :=
  [enUS, enGB, deDE, frFR, esES, ptBR, trTR, ruRU, jaJP, zhCN, arEG, svSE]

end Timex.Locale
