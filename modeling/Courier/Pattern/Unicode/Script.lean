import Courier.Pattern.Unicode.Category

/-!
# Scripts and other properties

The script of every character, after version 15 of the Unicode standard, and the properties
that decide what a letter, a word or a blank is.

Main definitions:

- `script` is the four-letter name of the script of a character; `scriptNamed?` finds a
  script by any of its names.
- `isAlphabetic`, `isLowercase`, `isUppercase`, `isWordCharacter` and `isDecimalDigit` are
  properties of characters.

Main statements:

- The letters, digits and underscore of ASCII are word characters
  (`isWordCharacter_of_ascii`).
-/

namespace Courier.Unicode

/-! ## Scripts -/

/-- The scripts of all characters in order: each run has its length in base 36 and the name
of its script. -/
def scriptText : String :=
  "1tZyyyqLatn6ZyyyqLatn1bZyyy1LatnfZyyy1Latn5ZyyynLatn1ZyyyvLatn1ZyyychLatn13Zyyy5Latn5Zyyy2Bopo" ++
    "kZyyy34Zinh4Grek1Zyyy3Grek2Zzzz4Grek1Zyyy1Grek4Zzzz1Grek1Zyyy1Grek1Zyyy3Grek1Zzzz1Grek1ZzzzkGr" ++
    "ek1Zzzz1rGrekeCoptgGrek3pCyrl2Zinh4pCyrl1Zzzz12Armn2Zzzz1eArmn2Zzzz3Armn1Zzzz1jHebr8ZzzzrHebr4" ++
    "Zzzz6HebrbZzzz5Arab1Zyyy6Arab1ZyyyeArab1Zyyy3Arab1ZyyywArab1ZyyyaArabbZinhqArab1Zinh30Arab1Zyy" ++
    "yyArabeSyrc1Zzzz1oSyrc2Zzzz3Syrc1cArab1eThaaeZzzz1nNkoo2Zzzz3Nkoo1aSamr2ZzzzfSamr1ZzzzsMand2Zz" ++
    "zz1Mand1ZzzzbSyrc5ZzzzvArab1Zzzz2Arab6Zzzz22Arab1ZyyytArab29Deva4ZinhfDeva2ZyyyqDeva4Beng1Zzzz" ++
    "8Beng2Zzzz2Beng2ZzzzmBeng1Zzzz7Beng1Zzzz1Beng3Zzzz4Beng2Zzzz9Beng2Zzzz2Beng2Zzzz4Beng8Zzzz1Ben" ++
    "g4Zzzz2Beng1Zzzz5Beng2ZzzzpBeng2Zzzz3Guru1Zzzz6Guru4Zzzz2Guru2ZzzzmGuru1Zzzz7Guru1Zzzz2Guru1Zz" ++
    "zz2Guru1Zzzz2Guru2Zzzz1Guru1Zzzz5Guru4Zzzz2Guru2Zzzz3Guru3Zzzz1Guru7Zzzz4Guru1Zzzz1Guru7ZzzzhG" ++
    "uruaZzzz3Gujr1Zzzz9Gujr1Zzzz3Gujr1ZzzzmGujr1Zzzz7Gujr1Zzzz2Gujr1Zzzz5Gujr2ZzzzaGujr1Zzzz3Gujr1" ++
    "Zzzz3Gujr2Zzzz1GujrfZzzz4Gujr2ZzzzcGujr7Zzzz7Gujr1Zzzz3Orya1Zzzz8Orya2Zzzz2Orya2ZzzzmOrya1Zzzz" ++
    "7Orya1Zzzz2Orya1Zzzz5Orya2Zzzz9Orya2Zzzz2Orya2Zzzz3Orya7Zzzz3Orya4Zzzz2Orya1Zzzz5Orya2ZzzziOry" ++
    "aaZzzz2Taml1Zzzz6Taml3Zzzz3Taml1Zzzz4Taml3Zzzz2Taml1Zzzz1Taml1Zzzz2Taml3Zzzz2Taml3Zzzz3Taml3Zz" ++
    "zzcTaml4Zzzz5Taml3Zzzz3Taml1Zzzz4Taml2Zzzz1Taml6Zzzz1TamleZzzzlTaml5ZzzzdTelu1Zzzz3Telu1ZzzznT" ++
    "elu1ZzzzgTelu2Zzzz9Telu1Zzzz3Telu1Zzzz4Telu7Zzzz2Telu1Zzzz3Telu2Zzzz1Telu2Zzzz4Telu2ZzzzaTelu7" ++
    "Zzzz9TeludKnda1Zzzz3Knda1ZzzznKnda1ZzzzaKnda1Zzzz5Knda2Zzzz9Knda1Zzzz3Knda1Zzzz4Knda7Zzzz2Knda" ++
    "6Zzzz2Knda1Zzzz4Knda2ZzzzaKnda1Zzzz3KndacZzzzdMlym1Zzzz3Mlym1Zzzz1fMlym1Zzzz3Mlym1Zzzz6Mlym4Zz" ++
    "zzgMlym2ZzzzqMlym1Zzzz3Sinh1ZzzziSinh3ZzzzoSinh1Zzzz9Sinh1Zzzz1Sinh2Zzzz7Sinh3Zzzz1Sinh4Zzzz6S" ++
    "inh1Zzzz1Sinh1Zzzz8Sinh6ZzzzaSinh2Zzzz3SinhcZzzz1mThai4Zzzz1ZyyysThai11Zzzz2Laoo1Zzzz1Laoo1Zzz" ++
    "z5Laoo1ZzzzoLaoo1Zzzz1Laoo1ZzzznLaoo2Zzzz5Laoo1Zzzz1Laoo1Zzzz7Laoo1ZzzzaLaoo2Zzzz4LaoowZzzz20T" ++
    "ibt1Zzzz10Tibt4Zzzz13Tibt1Zzzz10Tibt1ZzzzfTibt1Zzzz7Tibt4Zyyy2Tibt11Zzzz4gMymr12Geor1Zzzz1Geor" ++
    "5Zzzz1Geor2Zzzz17Geor1Zyyy4Geor74Hang21Ethi1Zzzz4Ethi2Zzzz7Ethi1Zzzz1Ethi1Zzzz4Ethi2Zzzz15Ethi" ++
    "1Zzzz4Ethi2ZzzzxEthi1Zzzz4Ethi2Zzzz7Ethi1Zzzz1Ethi1Zzzz4Ethi2ZzzzfEthi1Zzzz1lEthi1Zzzz4Ethi2Zz" ++
    "zz1vEthi2ZzzzwEthi3ZzzzqEthi6Zzzz2eCher2Zzzz6Cher2ZzzzhsCanstOgam3Zzzz23Runr3ZyyybRunr7ZzzzmTg" ++
    "lg9Zzzz1TglglHano2Zyyy9ZzzzkBuhdcZzzzdTagb1Zzzz3Tagb1Zzzz2TagbcZzzz2mKhmr2ZzzzaKhmr6ZzzzaKhmr6" ++
    "Zzzz2Mong2Zyyy1Mong1ZyyykMong6Zzzz2hMong7Zzzz17Mong5Zzzz1yCansaZzzzvLimb1ZzzzcLimb4ZzzzcLimb4Z" ++
    "zzz1Limb3ZzzzcLimbuTale2Zzzz5TalebZzzz18Talu4ZzzzqTalu6ZzzzbTalu3Zzzz2TaluwKhmrsBugi2Zzzz2Bugi" ++
    "1rLana1ZzzztLana2ZzzzbLana6ZzzzaLana6ZzzzeLana2ZzzzvZinh1dZzzz25Bali3Zzzz1bBali1Zzzz1sSund1gBa" ++
    "tk8Zzzz4Batk1kLepc3ZzzzfLepc3Zzzz3Lepc1cOlck9Cyrl7Zzzz17Geor2Zzzz3Geor8Sund8Zzzz3Zinh1ZyyydZin" ++
    "h1Zyyy7Zinh4Zyyy1Zinh6Zyyy1Zinh3Zyyy2Zinh1Zyyy5Zzzz12Latn5Grek1Cyrl1dLatn5Grek4Latn5GrekdLatn1" ++
    "Cyrl1yLatn1Grek1sZinh74LatnmGrek2Zzzz6Grek2Zzzz12Grek2Zzzz6Grek2Zzzz8Grek1Zzzz1Grek1Zzzz1Grek1" ++
    "Zzzz1Grek1ZzzzvGrek2Zzzz1hGrek1ZzzzfGrek1ZzzzeGrek2Zzzz6Grek1ZzzzjGrek2Zzzz3Grek1Zzzz9Grek1Zzz" ++
    "zcZyyy2Zinh2fZyyy1ZzzzbZyyy1Latn2ZzzzbZyyy1LatnfZyyy1ZzzzdLatn3ZzzzxZyyyfZzzzxZinhfZzzz12Zyyy1" ++
    "Grek3Zyyy2Latn6Zyyy1LatnrZyyy1LatnhZyyy15Latn3Zyyy4ZzzzifZyyypZzzzbZyyylZzzzpsZyyy74BraihgZyyy" ++
    "2ZzzzwZyyy1Zzzz2xZyyy2oGlagwLatn38Copt5Zzzz7Copt12Geor1Zzzz1Geor5Zzzz1Geor2Zzzz1kTfng7Zzzz2Tfn" ++
    "geZzzz1TfngnEthi9Zzzz7Ethi1Zzzz7Ethi1Zzzz7Ethi1Zzzz7Ethi1Zzzz7Ethi1Zzzz7Ethi1Zzzz7Ethi1Zzzz7Et" ++
    "hi1ZzzzwCyrl2mZyyyyZzzzqHani1Zzzz2hHanicZzzz5yHaniqZzzzcZyyy4Zzzz5Zyyy1Hani1Zyyy1HanipZyyy9Han" ++
    "i4Zinh2Hang8Zyyy4Hani4Zyyy1Zzzz2eHira2Zzzz2Zinh2Zyyy3Hira1Zyyy2iKana2Zyyy3Kana5Zzzz17Bopo1Zzzz" ++
    "2mHang1ZzzzgZyyywBopo10ZyyycZzzzgKanavHang1Zzzz1sZyyyvHang29Zyyy1bKana1Zyyy2gKana4oZyyy534Hani" ++
    "1sZyyyg74HaniwdYiii3Zzzz1jYiii9Zzzz1cLisu8cVaiikZzzz2oCyrl2gBamu8ZzzzyZyyy2uLatn3Zyyy1sLatn5Zz" ++
    "zz2Latn1Zzzz1Latn1Zzzz5LatnoZzzzeLatn19Sylo3ZzzzaZyyy6Zzzz1kPhag8Zzzz1ySaur8ZzzzcSaur6ZzzzwDev" ++
    "a1aKali1Zyyy1Kali10RjngbZzzz1RjngtHang3Zzzz26Java1Zzzz1ZyyyaJava4Zzzz2JavavMymr1Zzzz1jCham9Zzz" ++
    "zeCham2ZzzzaCham2Zzzz4ChamwMymr1vTavtoZzzz5TavtnMteiaZzzz6Ethi2Zzzz6Ethi2Zzzz6Ethi9Zzzz7Ethi1Z" ++
    "zzz7Ethi1Zzzz17Latn1Zyyy9Latn1Grek4Latn2Zyyy4Zzzz28Cher1aMtei2ZzzzaMtei6Zzzz8mcHangcZzzznHang4" ++
    "Zzzz1dHang6isZzzza6Hani2Zzzz2yHani12Zzzz7LatncZzzz5Armn5ZzzzqHebr1Zzzz5Hebr1Zzzz1Hebr1Zzzz2Heb" ++
    "r1Zzzz2Hebr1ZzzzaHebr37ArabgZzzza3Arab2Zyyy28Arab2Zzzz1iArab7Zzzz1ArabwZzzzgArabgZinhaZyyy6Zzz" ++
    "zeZinh2CyrlzZyyy1ZzzzjZyyy1Zzzz4Zyyy4Zzzz5Arab1Zzzz3rArab2Zzzz1Zyyy1ZzzzwZyyyqLatn6ZyyyqLatnbZ" ++
    "yyyaKana1Zyyy19Kana2ZyyyvHang3Zzzz6Hang2Zzzz6Hang2Zzzz6Hang2Zzzz3Hang3Zzzz7Zyyy1Zzzz7ZyyyaZzzz" ++
    "5Zyyy2ZzzzcLinb1ZzzzqLinb1ZzzzjLinb1Zzzz2Linb1ZzzzfLinb2ZzzzeLinbyZzzz3fLinb5Zzzz3Zyyy4Zzzz19Z" ++
    "yyy3Zzzz9Zyyy27Grek1ZzzzdZyyy3Zzzz1Grek1bZzzz19Zyyy1Zinh3mZzzztLyci3Zzzz1dCarifZzzz1ZinhrZyyy4" ++
    "Zzzz10Ital9Zzzz3ItalrGoth5Zzzz17Perm5ZzzzuUgar1Zzzz1Ugar10Xpeo4ZzzzeXpeo16Zzzz28Dsrt1cShawuOsm" ++
    "a2ZzzzaOsma6Zzzz10Osge4Zzzz10Osge4Zzzz14Elba8Zzzz1gAghbbZzzz1AghbbVith1ZzzzfVith1Zzzz7Vith1Zzz" ++
    "z2Vith1ZzzzbVith1ZzzzfVith1Zzzz7Vith1Zzzz2Vith1vZzzz8nLina9ZzzzmLinaaZzzz8LinaoZzzz6Latn1Zzzz1" ++
    "6Latn1Zzzz9Latn1xZzzz6Cprt2Zzzz1Cprt1Zzzz18Cprt1Zzzz2Cprt3Zzzz1Cprt2Zzzz1CprtmArmi1Zzzz9ArmiwP" ++
    "almvNbat8Zzzz9Nbat1cZzzzjHatr1Zzzz2Hatr5Zzzz5HatrsPhnx3Zzzz1PhnxqLydi5Zzzz1Lydi1sZzzzwMerooMer" ++
    "c4ZzzzkMerc2Zzzz1aMerc4Khar1Zzzz2Khar5Zzzz8Khar1Zzzz3Khar1ZzzztKhar2Zzzz3Khar4ZzzzaKhar7Zzzz9K" ++
    "har7ZzzzwSarbwNarbwZzzz13Mani4ZzzzcMani9Zzzz1iAvst3Zzzz7AvstmPrti2Zzzz8PrtijPhli5Zzzz8PhliiPhl" ++
    "p7Zzzz4PhlpcZzzz7Phlp28Zzzz21Orkh1jZzzz1fHungdZzzz1fHung7Zzzz6Hung14Rohg8ZzzzaRohg86ZzzzvArab1" ++
    "Zzzz16Yezi1Zzzz3Yezi2Zzzz2Yezi23Zzzz3Arab14Sogo8Zzzz16SogdmZzzzqOugr12ZzzzsChrskZzzznElym9Zzzz" ++
    "26Brah4Zzzz10Brah9Zzzz1Brah1vKthiaZzzz1Kthi2ZzzzpSora7ZzzzaSora6Zzzz1hCakm1ZzzziCakm8Zzzz13Mah" ++
    "j9Zzzz2oShrd1ZzzzkSinhbZzzziKhoj1Zzzz1bKhoj1qZzzz7Mult1Zzzz1Mult1Zzzz4Mult1ZzzzfMult1ZzzzbMult" ++
    "6Zzzz1nSind5ZzzzaSind6Zzzz4Gran1Zzzz8Gran2Zzzz2Gran2ZzzzmGran1Zzzz7Gran1Zzzz2Gran1Zzzz5Gran1Zz" ++
    "zz1Zinh9Gran2Zzzz2Gran2Zzzz3Gran2Zzzz1Gran6Zzzz1Gran5Zzzz7Gran2Zzzz7Gran3Zzzz5Gran3vZzzz2kNewa" ++
    "1Zzzz5NewauZzzz20Tirh8ZzzzaTirh4mZzzz1iSidd2Zzzz12SiddyZzzz1xModibZzzzaModi6ZzzzdMongjZzzz1mTa" ++
    "kr6ZzzzaTakr1iZzzzrAhom2ZzzzfAhom4ZzzznAhom55Zzzz1oDogr2sZzzz2bWaracZzzz1Wara7Diak2Zzzz1Diak2Z" ++
    "zzz8Diak1Zzzz2Diak1ZzzzuDiak1Zzzz2Diak2ZzzzcDiak9ZzzzaDiak1yZzzz8Nand2Zzzz1aNand2ZzzzbNandrZzz" ++
    "z20Zanb8Zzzz2bSoyodZzzzgCans1lPauc7ZzzzaDeva6uZzzz9Bhks1Zzzz19Bhks1ZzzzeBhksaZzzztBhks3ZzzzwMa" ++
    "rc2ZzzzmMarc1ZzzzeMarc21Zzzz7Gonm1Zzzz2Gonm1Zzzz18Gonm3Zzzz1Gonm1Zzzz2Gonm1Zzzz9Gonm8ZzzzaGonm" ++
    "6Zzzz6Gong1Zzzz2Gong1Zzzz11Gong1Zzzz2Gong1Zzzz6Gong7ZzzzaGong8mZzzzpMaka7ZzzzhKawi1Zzzz15Kawi3" ++
    "ZzzzsKawi2eZzzz1LisufZzzz1eTamldZzzz1TamlpmXsux2uZzzz33Xsux1Zzzz5XsuxbZzzz5gXsux218Zzzz2rCpmnd" ++
    "ZzzzuuEgyp33eZzzzg7Hluw6ntZzzzftBamu7ZzzzvMroo1ZzzzaMroo4Zzzz2Mroo27Tnsa1ZzzzaTnsa6ZzzzuBass2Z" ++
    "zzz6BassaZzzz1yHmngaZzzzaHmng1Zzzz7Hmng1ZzzzlHmng5ZzzzjHmngj4Zzzz2jMedf2tZzzz23Plrd4Zzzz1lPlrd" ++
    "7ZzzzhPlrd1sZzzz1Tang1Nshu2Hani1KitsbZzzz2HanieZzzz4qgTang8ZzzzlcTangd2Kits16Zzzz9Tang6w7Zzzz4" ++
    "Kana1Zzzz7Kana1Zzzz2Kana1Zzzz1Kana7zHira3KanafZzzz1HiratZzzz3Hira2Zzzz1KanaeZzzz4Kana8Zzzzb0Ns" ++
    "hu1s4Zzzz2zDupl5ZzzzdDupl3Zzzz9Dupl7ZzzzaDupl2Zzzz4Dupl4Zyyy3mkZzzz1aZinh2ZzzznZinh9Zzzz38Zyyy" ++
    "1oZzzz6uZyyyaZzzz13Zyyy2Zzzz1qZyyy3ZinhhZyyy8Zinh2Zyyy7ZinhuZyyy4Zinh1pZyyylZzzz1yGrek3eZzzzkZ" ++
    "yyycZzzzkZyyycZzzz2fZyyy9ZzzzpZyyy3rZzzz2dZyyy1Zzzz1zZyyy1Zzzz2Zyyy2Zzzz1Zyyy2Zzzz2Zyyy2Zzzz4Z" ++
    "yyy1ZzzzcZyyy1Zzzz1Zyyy1Zzzz7Zyyy1Zzzz1tZyyy1Zzzz4Zyyy2Zzzz8Zyyy1Zzzz7Zyyy1ZzzzsZyyy1Zzzz4Zyyy" ++
    "1Zzzz5Zyyy1Zzzz1Zyyy3Zzzz7Zyyy1Zzzz9gZyyy2Zzzz84Zyyy2Zzzz1eZyyyi4SgnwfZzzz5Sgnw1ZzzzfSgnwuoZzz" ++
    "zvLatn6Zzzz6Latn5xZzzz7Glag1ZzzzhGlag2Zzzz7Glag1Zzzz2Glag1Zzzz5Glag5Zzzz1qCyrlxZzzz1Cyrl34Zzzz" ++
    "19Hmnp3ZzzzeHmnp2ZzzzaHmnp4Zzzz2Hmnp8wZzzzvTotohZzzz1mWcho5Zzzz1WchocwZzzz16NagmkmZzzz7Ethi1Zz" ++
    "zz4Ethi1Zzzz2Ethi1ZzzzfEthi1Zzzz5hMend2ZzzzgMend15Zzzz24Adlm4ZzzzaAdlm4Zzzz2AdlmltZzzz1wZyyy24" ++
    "Zzzz1pZyyy5eZzzz4Arab1ZzzzrArab1Zzzz2Arab1Zzzz1Arab2Zzzz1Arab1ZzzzaArab1Zzzz4Arab1Zzzz1Arab1Zz" ++
    "zz1Arab6Zzzz1Arab4Zzzz1Arab1Zzzz1Arab1Zzzz1Arab1Zzzz3Arab1Zzzz2Arab1Zzzz1Arab2Zzzz1Arab1Zzzz1A" ++
    "rab1Zzzz1Arab1Zzzz1Arab1Zzzz1Arab1Zzzz2Arab1Zzzz1Arab2Zzzz4Arab1Zzzz7Arab1Zzzz4Arab1Zzzz4Arab1" ++
    "Zzzz1Arab1ZzzzaArab1ZzzzhArab5Zzzz3Arab1Zzzz5Arab1ZzzzhArab1gZzzz2Arab7iZzzz18Zyyy4Zzzz2sZyyyc" ++
    "ZzzzfZyyy2ZzzzfZyyy1ZzzzfZyyy1Zzzz11ZyyyaZzzz4uZyyy1kZzzzqZyyy1Hira2ZyyydZzzz18Zyyy4Zzzz9Zyyy7" ++
    "Zzzz2ZyyyeZzzz6Zyyy4aZzzzrcZyyy4ZzzzhZyyy3ZzzzdZyyy3Zzzz3bZyyy4Zzzz2nZyyy6ZzzzcZyyy4Zzzz1Zyyyf" ++
    "ZzzzcZyyy4Zzzz1kZyyy8ZzzzaZyyy6Zzzz14Zyyy8ZzzzuZyyy2Zzzz2Zyyy26Zzzz9gZyyycZzzzeZyyy2ZzzzdZyyy3" ++
    "Zzzz9Zyyy7Zzzz1aZyyy1Zzzz7Zyyy8ZzzzeZyyy4Zzzz9Zyyy7Zzzz9Zyyy7Zzzz43Zyyy1Zzzz1jZyyy11ZzzzaZyyys" ++
    "mZzzzwyoHaniwZzzz37eHani6Zzzz66Hani2Zzzz4g2HanieZzzz5rlHani2e7Zzzzf2Hani15uZzzz3t7Hani5Zzzz38g" ++
    "Hanif975Zzzz1ZyyyuZzzz2oZyyy3kZzzz6oZinh47bkZzzz"

/-- The runs of scripts. -/
def scriptRuns : Runs :=
  .parse 4 scriptText

/-- The name of the script of a character. -/
def script (c : Char) : String :=
  (scriptRuns.at? c.toNat).getD "Zzzz"

/-- The names of the scripts, in lower case and without separators, each with its
four-letter name. -/
def scriptNameText : String :=
  "adlam:Adlm,adlm:Adlm,caucasianalbanian:Aghb,aghb:Aghb,ahom:Ahom,arabic:Arab,arab:Arab,imperial" ++
    "aramaic:Armi,armi:Armi,armenian:Armn,armn:Armn,avestan:Avst,avst:Avst,balinese:Bali,bali:Bali," ++
    "bamum:Bamu,bamu:Bamu,bassavah:Bass,bass:Bass,batak:Batk,batk:Batk,bengali:Beng,beng:Beng,bhaik" ++
    "suki:Bhks,bhks:Bhks,bopomofo:Bopo,bopo:Bopo,brahmi:Brah,brah:Brah,braille:Brai,brai:Brai,bugin" ++
    "ese:Bugi,bugi:Bugi,buhid:Buhd,buhd:Buhd,chakma:Cakm,cakm:Cakm,canadianaboriginal:Cans,cans:Can" ++
    "s,carian:Cari,cari:Cari,cham:Cham,cherokee:Cher,cher:Cher,chorasmian:Chrs,chrs:Chrs,coptic:Cop" ++
    "t,qaac:Copt,copt:Copt,cyprominoan:Cpmn,cpmn:Cpmn,cypriot:Cprt,cprt:Cprt,cyrillic:Cyrl,cyrl:Cyr" ++
    "l,devanagari:Deva,deva:Deva,divesakuru:Diak,diak:Diak,dogra:Dogr,dogr:Dogr,deseret:Dsrt,dsrt:D" ++
    "srt,duployan:Dupl,dupl:Dupl,egyptianhieroglyphs:Egyp,egyp:Egyp,elbasan:Elba,elba:Elba,elymaic:" ++
    "Elym,elym:Elym,ethiopic:Ethi,ethi:Ethi,georgian:Geor,geor:Geor,glagolitic:Glag,glag:Glag,gunja" ++
    "lagondi:Gong,gong:Gong,masaramgondi:Gonm,gonm:Gonm,gothic:Goth,goth:Goth,grantha:Gran,gran:Gra" ++
    "n,greek:Grek,grek:Grek,gujarati:Gujr,gujr:Gujr,gurmukhi:Guru,guru:Guru,hangul:Hang,hang:Hang,h" ++
    "an:Hani,hani:Hani,hanunoo:Hano,hano:Hano,hatran:Hatr,hatr:Hatr,hebrew:Hebr,hebr:Hebr,hiragana:" ++
    "Hira,hira:Hira,anatolianhieroglyphs:Hluw,hluw:Hluw,pahawhhmong:Hmng,hmng:Hmng,nyiakengpuachueh" ++
    "mong:Hmnp,hmnp:Hmnp,oldhungarian:Hung,hung:Hung,olditalic:Ital,ital:Ital,javanese:Java,java:Ja" ++
    "va,kayahli:Kali,kali:Kali,katakana:Kana,kana:Kana,kawi:Kawi,kharoshthi:Khar,khar:Khar,khmer:Kh" ++
    "mr,khmr:Khmr,khojki:Khoj,khoj:Khoj,khitansmallscript:Kits,kits:Kits,kannada:Knda,knda:Knda,kai" ++
    "thi:Kthi,kthi:Kthi,taitham:Lana,lana:Lana,lao:Laoo,laoo:Laoo,latin:Latn,latn:Latn,lepcha:Lepc," ++
    "lepc:Lepc,limbu:Limb,limb:Limb,lineara:Lina,lina:Lina,linearb:Linb,linb:Linb,lisu:Lisu,lycian:" ++
    "Lyci,lyci:Lyci,lydian:Lydi,lydi:Lydi,mahajani:Mahj,mahj:Mahj,makasar:Maka,maka:Maka,mandaic:Ma" ++
    "nd,mand:Mand,manichaean:Mani,mani:Mani,marchen:Marc,marc:Marc,medefaidrin:Medf,medf:Medf,mende" ++
    "kikakui:Mend,mend:Mend,meroiticcursive:Merc,merc:Merc,meroitichieroglyphs:Mero,mero:Mero,malay" ++
    "alam:Mlym,mlym:Mlym,modi:Modi,mongolian:Mong,mong:Mong,mro:Mroo,mroo:Mroo,meeteimayek:Mtei,mte" ++
    "i:Mtei,multani:Mult,mult:Mult,myanmar:Mymr,mymr:Mymr,nagmundari:Nagm,nagm:Nagm,nandinagari:Nan" ++
    "d,nand:Nand,oldnortharabian:Narb,narb:Narb,nabataean:Nbat,nbat:Nbat,newa:Newa,nko:Nkoo,nkoo:Nk" ++
    "oo,nushu:Nshu,nshu:Nshu,ogham:Ogam,ogam:Ogam,olchiki:Olck,olck:Olck,oldturkic:Orkh,orkh:Orkh,o" ++
    "riya:Orya,orya:Orya,osage:Osge,osge:Osge,osmanya:Osma,osma:Osma,olduyghur:Ougr,ougr:Ougr,palmy" ++
    "rene:Palm,palm:Palm,paucinhau:Pauc,pauc:Pauc,oldpermic:Perm,perm:Perm,phagspa:Phag,phag:Phag,i" ++
    "nscriptionalpahlavi:Phli,phli:Phli,psalterpahlavi:Phlp,phlp:Phlp,phoenician:Phnx,phnx:Phnx,mia" ++
    "o:Plrd,plrd:Plrd,inscriptionalparthian:Prti,prti:Prti,rejang:Rjng,rjng:Rjng,hanifirohingya:Roh" ++
    "g,rohg:Rohg,runic:Runr,runr:Runr,samaritan:Samr,samr:Samr,oldsoutharabian:Sarb,sarb:Sarb,saura" ++
    "shtra:Saur,saur:Saur,signwriting:Sgnw,sgnw:Sgnw,shavian:Shaw,shaw:Shaw,sharada:Shrd,shrd:Shrd," ++
    "siddham:Sidd,sidd:Sidd,khudawadi:Sind,sind:Sind,sinhala:Sinh,sinh:Sinh,sogdian:Sogd,sogd:Sogd," ++
    "oldsogdian:Sogo,sogo:Sogo,sorasompeng:Sora,sora:Sora,soyombo:Soyo,soyo:Soyo,sundanese:Sund,sun" ++
    "d:Sund,sylotinagri:Sylo,sylo:Sylo,syriac:Syrc,syrc:Syrc,tagbanwa:Tagb,tagb:Tagb,takri:Takr,tak" ++
    "r:Takr,taile:Tale,tale:Tale,newtailue:Talu,talu:Talu,tamil:Taml,taml:Taml,tangut:Tang,tang:Tan" ++
    "g,taiviet:Tavt,tavt:Tavt,telugu:Telu,telu:Telu,tifinagh:Tfng,tfng:Tfng,tagalog:Tglg,tglg:Tglg," ++
    "thaana:Thaa,thaa:Thaa,thai:Thai,tibetan:Tibt,tibt:Tibt,tirhuta:Tirh,tirh:Tirh,tangsa:Tnsa,tnsa" ++
    ":Tnsa,toto:Toto,ugaritic:Ugar,ugar:Ugar,vai:Vaii,vaii:Vaii,vithkuqi:Vith,vith:Vith,warangciti:" ++
    "Wara,wara:Wara,wancho:Wcho,wcho:Wcho,oldpersian:Xpeo,xpeo:Xpeo,cuneiform:Xsux,xsux:Xsux,yezidi" ++
    ":Yezi,yezi:Yezi,yi:Yiii,yiii:Yiii,zanabazarsquare:Zanb,zanb:Zanb,inherited:Zinh,qaai:Zinh,zinh" ++
    ":Zinh,common:Zyyy,zyyy:Zyyy,unknown:Zzzz,zzzz:Zzzz"

/-- The script that a name stands for. -/
def scriptNamed? (name : String) : Option String :=
  ((Spans.entries scriptNameText).find? fun entry =>
    String.ofList (entry.takeWhile (· != ':')) == name).map fun entry =>
      String.ofList ((entry.dropWhile (· != ':')).drop 1)

/-! ## Letters and words -/

/-- The characters that are alphabetic although their category is none of letters. -/
def otherAlphabetic : Spans :=
  .parse (
  "n9:0,h7:d,2:0,2:1,2:1,2:0,21:a,1d:c,2:6,h:0,2u:6,5:3,3:1,5:0,10:0,v:f,2v:a,2u:1,4:8,2:2,2:3,4o" ++
    ":b,4:6,7:j,1j:1,3:e,2:1,6:2,b:1,u:2,1n:6,3:1,3:1,b:0,b:1,u:2,1n:4,5:1,3:1,5:0,v:1,4:0,c:2,1n:7" ++
    ",2:2,2:1,m:1,n:2,5:2,1n:6,3:1,3:1,a:1,b:1,v:0,1o:4,4:2,2:2,b:0,15:4,1m:6,2:2,2:2,9:1,c:1,u:2,1" ++
    "n:6,2:2,2:2,9:1,c:1,g:0,d:3,1n:6,2:2,2:2,b:0,b:1,u:2,24:5,2:0,2:7,j:1,1q:0,3:6,j:0,2s:0,3:5,2:" ++
    "1,h:0,4k:i,a:a,2:z,33:b,2:0,3:3,o:3,5:2,2:2,3:6,4:3,e:b,2:0,b:3,19x:1,v:1,v:1,v:1,1v:i,59:1,z:" ++
    "0,3b:b,5:8,67:4,1m:9,3:j,23:1,c:2,1e:4,1d:e,1p:2,v:8,3:1,1m:a,1f:i,c1:d,1c2:1f,1rr:v,nsl:7,z:1" ++
    ",9v:0,9:0,o:4,2h:1,1f:f,2:0,1m:0,13:4,t:b,1a:3,1d:b,12:0,1w:d,d:0,9:1,1a:2,1f:0,2:2,3:1,6:0,19" ++
    ":4,6:0,6m:7,fn8:0,1nc:4,1af:2,2:1,6:3,lx:3,as:1,9g:2,1i:d,1a:1,c:2,1a:8,a:0,1q:2,11:b,j:1,1m:2" ++
    ",1d:c,f:1,2l:8,3:0,7:0,3:0,4e:9,o:3,1n:6,3:1,3:1,b:0,b:1,5u:c,2:2,2z:h,6m:6,3:6,u:1,2b:e,2:0,2" ++
    "z:a,2w:d,76:c,6w:5,2:1,3:1,4:0,2:0,3z:6,3:5,5:0,t:9,17:4,2:3,j:a,1b:d,bc:7,2:6,2c:l,2:d,3f:5,4" ++
    ":0,2:1,2:2,2:0,4:0,1v:4,2:1,2:3,9p:3,a:1,2:0,1d:6,4:2,ftb:0,2:1i,8:3,2m:1,f59:0,6zm:6,2:g,3:6," ++
    "2:1,2:4,2t:0,1q0:0,1k9:p,7:p,7:p")

/-- The characters that count as lower case although their category does not say so. -/
def otherLowercase : Spans :=
  .parse (
  "4q:0,g:0,dy:8,8:1,v:4,2p:0,1h:0,2o2:0,2eo:1q,e:0,z:10,j6:0,e:0,h:c,5w:f,nl:p,1hv:1,o4f:1,5v:0," ++
    "3m:2,4:1,o3:3,a:0,i6v:0,3:2,2:15,2:8,16ra:1p")

/-- The characters that count as upper case although their category does not say so. -/
def otherUppercase : Spans :=
  .parse
  "6lc:f,nb:p,2ixt:p,7:p,7:p"

/-- The categories of letters and of numbers that look like letters. -/
def letterCategories : List String :=
  ["Lu", "Ll", "Lt", "Lm", "Lo", "Nl"]

/-- Whether a character is alphabetic. -/
def isAlphabetic (c : Char) : Bool :=
  letterCategories.contains (category c) || otherAlphabetic.contains c.toNat

/-- Whether a character is in lower case. -/
def isLowercase (c : Char) : Bool :=
  category c == "Ll" || otherLowercase.contains c.toNat

/-- Whether a character is in upper case. -/
def isUppercase (c : Char) : Bool :=
  category c == "Lu" || otherUppercase.contains c.toNat

/-- Whether a character is a decimal digit. -/
def isDecimalDigit (c : Char) : Bool :=
  category c == "Nd"

/-- Whether a character is a number of any kind. -/
def isNumeric (c : Char) : Bool :=
  ["Nd", "Nl", "No"].contains (category c)

/-- Whether a character is a letter, a digit or the underscore of ASCII. -/
def isAsciiWord (c : Char) : Bool :=
  c.isAlphanum || c == '_'

/-- Whether a character can be part of a word: an alphabetic character, a mark, a digit,
connecting punctuation, or one of the two joiners. -/
def isWordCharacter (c : Char) : Bool :=
  isAsciiWord c ||
    (128 ≤ c.toNat &&
      (isAlphabetic c || ["Mn", "Mc", "Me", "Nd", "Pc"].contains (category c) ||
        c.toNat == 0x200C || c.toNat == 0x200D))

/-- The letters, digits and underscore of ASCII are word characters. -/
theorem isWordCharacter_of_ascii {c : Char} (h : isAsciiWord c = true) :
    isWordCharacter c = true := by
  simp [isWordCharacter, h]

end Courier.Unicode
