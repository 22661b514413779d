import ApiContract.Unicode.Runs

/-!
# Unicode/Break — where user-perceived characters, words and sentences end

The values of the properties Grapheme_Cluster_Break, Word_Break and Sentence_Break in Unicode 16, and the
names of their values.
-/

namespace ApiContract.Unicode

/-- Grapheme_Cluster_Break of every code point. -/
def clusterTable : List String :=
  ["0Control aLF bControl dCR eControl 20Other 7fControl a0Other adControl aeOther 300Extend",
   "370Other 483Extend 48aOther 591Extend 5beOther 5bfExtend 5c0Other 5c1Extend 5c3Other 5c4Extend",
   "5c6Other 5c7Extend 5c8Other 600Prepend 606Other 610Extend 61bOther 61cControl 61dOther 64bExtend",
   "660Other 670Extend 671Other 6d6Extend 6ddPrepend 6deOther 6dfExtend 6e5Other 6e7Extend 6e9Other",
   "6eaExtend 6eeOther 70fPrepend 710Other 711Extend 712Other 730Extend 74bOther 7a6Extend 7b1Other",
   "7ebExtend 7f4Other 7fdExtend 7feOther 816Extend 81aOther 81bExtend 824Other 825Extend 828Other",
   "829Extend 82eOther 859Extend 85cOther 890Prepend 892Other 897Extend 8a0Other 8caExtend",
   "8e2Prepend 8e3Extend 903SpacingMark 904Other 93aExtend 93bSpacingMark 93cExtend 93dOther",
   "93eSpacingMark 941Extend 949SpacingMark 94dExtend 94eSpacingMark 950Other 951Extend 958Other",
   "962Extend 964Other 981Extend 982SpacingMark 984Other 9bcExtend 9bdOther 9beExtend 9bfSpacingMark",
   "9c1Extend 9c5Other 9c7SpacingMark 9c9Other 9cbSpacingMark 9cdExtend 9ceOther 9d7Extend 9d8Other",
   "9e2Extend 9e4Other 9feExtend 9ffOther a01Extend a03SpacingMark a04Other a3cExtend a3dOther",
   "a3eSpacingMark a41Extend a43Other a47Extend a49Other a4bExtend a4eOther a51Extend a52Other",
   "a70Extend a72Other a75Extend a76Other a81Extend a83SpacingMark a84Other abcExtend abdOther",
   "abeSpacingMark ac1Extend ac6Other ac7Extend ac9SpacingMark acaOther acbSpacingMark acdExtend",
   "aceOther ae2Extend ae4Other afaExtend b00Other b01Extend b02SpacingMark b04Other b3cExtend",
   "b3dOther b3eExtend b40SpacingMark b41Extend b45Other b47SpacingMark b49Other b4bSpacingMark",
   "b4dExtend b4eOther b55Extend b58Other b62Extend b64Other b82Extend b83Other bbeExtend",
   "bbfSpacingMark bc0Extend bc1SpacingMark bc3Other bc6SpacingMark bc9Other bcaSpacingMark",
   "bcdExtend bceOther bd7Extend bd8Other c00Extend c01SpacingMark c04Extend c05Other c3cExtend",
   "c3dOther c3eExtend c41SpacingMark c45Other c46Extend c49Other c4aExtend c4eOther c55Extend",
   "c57Other c62Extend c64Other c81Extend c82SpacingMark c84Other cbcExtend cbdOther cbeSpacingMark",
   "cbfExtend cc1SpacingMark cc2Extend cc3SpacingMark cc5Other cc6Extend cc9Other ccaExtend cceOther",
   "cd5Extend cd7Other ce2Extend ce4Other cf3SpacingMark cf4Other d00Extend d02SpacingMark d04Other",
   "d3bExtend d3dOther d3eExtend d3fSpacingMark d41Extend d45Other d46SpacingMark d49Other",
   "d4aSpacingMark d4dExtend d4ePrepend d4fOther d57Extend d58Other d62Extend d64Other d81Extend",
   "d82SpacingMark d84Other dcaExtend dcbOther dcfExtend dd0SpacingMark dd2Extend dd5Other dd6Extend",
   "dd7Other dd8SpacingMark ddfExtend de0Other df2SpacingMark df4Other e31Extend e32Other",
   "e33SpacingMark e34Extend e3bOther e47Extend e4fOther eb1Extend eb2Other eb3SpacingMark eb4Extend",
   "ebdOther ec8Extend ecfOther f18Extend f1aOther f35Extend f36Other f37Extend f38Other f39Extend",
   "f3aOther f3eSpacingMark f40Other f71Extend f7fSpacingMark f80Extend f85Other f86Extend f88Other",
   "f8dExtend f98Other f99Extend fbdOther fc6Extend fc7Other 102dExtend 1031SpacingMark 1032Extend",
   "1038Other 1039Extend 103bSpacingMark 103dExtend 103fOther 1056SpacingMark 1058Extend 105aOther",
   "105eExtend 1061Other 1071Extend 1075Other 1082Extend 1083Other 1084SpacingMark 1085Extend",
   "1087Other 108dExtend 108eOther 109dExtend 109eOther 1100L 1160V 11a8T 1200Other 135dExtend",
   "1360Other 1712Extend 1716Other 1732Extend 1735Other 1752Extend 1754Other 1772Extend 1774Other",
   "17b4Extend 17b6SpacingMark 17b7Extend 17beSpacingMark 17c6Extend 17c7SpacingMark 17c9Extend",
   "17d4Other 17ddExtend 17deOther 180bExtend 180eControl 180fExtend 1810Other 1885Extend 1887Other",
   "18a9Extend 18aaOther 1920Extend 1923SpacingMark 1927Extend 1929SpacingMark 192cOther",
   "1930SpacingMark 1932Extend 1933SpacingMark 1939Extend 193cOther 1a17Extend 1a19SpacingMark",
   "1a1bExtend 1a1cOther 1a55SpacingMark 1a56Extend 1a57SpacingMark 1a58Extend 1a5fOther 1a60Extend",
   "1a61Other 1a62Extend 1a63Other 1a65Extend 1a6dSpacingMark 1a73Extend 1a7dOther 1a7fExtend",
   "1a80Other 1ab0Extend 1acfOther 1b00Extend 1b04SpacingMark 1b05Other 1b34Extend 1b3eSpacingMark",
   "1b42Extend 1b45Other 1b6bExtend 1b74Other 1b80Extend 1b82SpacingMark 1b83Other 1ba1SpacingMark",
   "1ba2Extend 1ba6SpacingMark 1ba8Extend 1baeOther 1be6Extend 1be7SpacingMark 1be8Extend",
   "1beaSpacingMark 1bedExtend 1beeSpacingMark 1befExtend 1bf4Other 1c24SpacingMark 1c2cExtend",
   "1c34SpacingMark 1c36Extend 1c38Other 1cd0Extend 1cd3Other 1cd4Extend 1ce1SpacingMark 1ce2Extend",
   "1ce9Other 1cedExtend 1ceeOther 1cf4Extend 1cf5Other 1cf7SpacingMark 1cf8Extend 1cfaOther",
   "1dc0Extend 1e00Other 200bControl 200cExtend 200dZWJ 200eControl 2010Other 2028Control 202fOther",
   "2060Control 2070Other 20d0Extend 20f1Other 2cefExtend 2cf2Other 2d7fExtend 2d80Other 2de0Extend",
   "2e00Other 302aExtend 3030Other 3099Extend 309bOther a66fExtend a673Other a674Extend a67eOther",
   "a69eExtend a6a0Other a6f0Extend a6f2Other a802Extend a803Other a806Extend a807Other a80bExtend",
   "a80cOther a823SpacingMark a825Extend a827SpacingMark a828Other a82cExtend a82dOther",
   "a880SpacingMark a882Other a8b4SpacingMark a8c4Extend a8c6Other a8e0Extend a8f2Other a8ffExtend",
   "a900Other a926Extend a92eOther a947Extend a952SpacingMark a953Extend a954Other a960L a97dOther",
   "a980Extend a983SpacingMark a984Other a9b3Extend a9b4SpacingMark a9b6Extend a9baSpacingMark",
   "a9bcExtend a9beSpacingMark a9c0Extend a9c1Other a9e5Extend a9e6Other aa29Extend aa2fSpacingMark",
   "aa31Extend aa33SpacingMark aa35Extend aa37Other aa43Extend aa44Other aa4cExtend aa4dSpacingMark",
   "aa4eOther aa7cExtend aa7dOther aab0Extend aab1Other aab2Extend aab5Other aab7Extend aab9Other",
   "aabeExtend aac0Other aac1Extend aac2Other aaebSpacingMark aaecExtend aaeeSpacingMark aaf0Other",
   "aaf5SpacingMark aaf6Extend aaf7Other abe3SpacingMark abe5Extend abe6SpacingMark abe8Extend",
   "abe9SpacingMark abebOther abecSpacingMark abedExtend abeeOther ac00LV ac01LVT ac1cLV ac1dLVT",
   "ac38LV ac39LVT ac54LV ac55LVT ac70LV ac71LVT ac8cLV ac8dLVT aca8LV aca9LVT acc4LV acc5LVT ace0LV",
   "ace1LVT acfcLV acfdLVT ad18LV ad19LVT ad34LV ad35LVT ad50LV ad51LVT ad6cLV ad6dLVT ad88LV",
   "ad89LVT ada4LV ada5LVT adc0LV adc1LVT addcLV adddLVT adf8LV adf9LVT ae14LV ae15LVT ae30LV",
   "ae31LVT ae4cLV ae4dLVT ae68LV ae69LVT ae84LV ae85LVT aea0LV aea1LVT aebcLV aebdLVT aed8LV",
   "aed9LVT aef4LV aef5LVT af10LV af11LVT af2cLV af2dLVT af48LV af49LVT af64LV af65LVT af80LV",
   "af81LVT af9cLV af9dLVT afb8LV afb9LVT afd4LV afd5LVT aff0LV aff1LVT b00cLV b00dLVT b028LV",
   "b029LVT b044LV b045LVT b060LV b061LVT b07cLV b07dLVT b098LV b099LVT b0b4LV b0b5LVT b0d0LV",
   "b0d1LVT b0ecLV b0edLVT b108LV b109LVT b124LV b125LVT b140LV b141LVT b15cLV b15dLVT b178LV",
   "b179LVT b194LV b195LVT b1b0LV b1b1LVT b1ccLV b1cdLVT b1e8LV b1e9LVT b204LV b205LVT b220LV",
   "b221LVT b23cLV b23dLVT b258LV b259LVT b274LV b275LVT b290LV b291LVT b2acLV b2adLVT b2c8LV",
   "b2c9LVT b2e4LV b2e5LVT b300LV b301LVT b31cLV b31dLVT b338LV b339LVT b354LV b355LVT b370LV",
   "b371LVT b38cLV b38dLVT b3a8LV b3a9LVT b3c4LV b3c5LVT b3e0LV b3e1LVT b3fcLV b3fdLVT b418LV",
   "b419LVT b434LV b435LVT b450LV b451LVT b46cLV b46dLVT b488LV b489LVT b4a4LV b4a5LVT b4c0LV",
   "b4c1LVT b4dcLV b4ddLVT b4f8LV b4f9LVT b514LV b515LVT b530LV b531LVT b54cLV b54dLVT b568LV",
   "b569LVT b584LV b585LVT b5a0LV b5a1LVT b5bcLV b5bdLVT b5d8LV b5d9LVT b5f4LV b5f5LVT b610LV",
   "b611LVT b62cLV b62dLVT b648LV b649LVT b664LV b665LVT b680LV b681LVT b69cLV b69dLVT b6b8LV",
   "b6b9LVT b6d4LV b6d5LVT b6f0LV b6f1LVT b70cLV b70dLVT b728LV b729LVT b744LV b745LVT b760LV",
   "b761LVT b77cLV b77dLVT b798LV b799LVT b7b4LV b7b5LVT b7d0LV b7d1LVT b7ecLV b7edLVT b808LV",
   "b809LVT b824LV b825LVT b840LV b841LVT b85cLV b85dLVT b878LV b879LVT b894LV b895LVT b8b0LV",
   "b8b1LVT b8ccLV b8cdLVT b8e8LV b8e9LVT b904LV b905LVT b920LV b921LVT b93cLV b93dLVT b958LV",
   "b959LVT b974LV b975LVT b990LV b991LVT b9acLV b9adLVT b9c8LV b9c9LVT b9e4LV b9e5LVT ba00LV",
   "ba01LVT ba1cLV ba1dLVT ba38LV ba39LVT ba54LV ba55LVT ba70LV ba71LVT ba8cLV ba8dLVT baa8LV",
   "baa9LVT bac4LV bac5LVT bae0LV bae1LVT bafcLV bafdLVT bb18LV bb19LVT bb34LV bb35LVT bb50LV",
   "bb51LVT bb6cLV bb6dLVT bb88LV bb89LVT bba4LV bba5LVT bbc0LV bbc1LVT bbdcLV bbddLVT bbf8LV",
   "bbf9LVT bc14LV bc15LVT bc30LV bc31LVT bc4cLV bc4dLVT bc68LV bc69LVT bc84LV bc85LVT bca0LV",
   "bca1LVT bcbcLV bcbdLVT bcd8LV bcd9LVT bcf4LV bcf5LVT bd10LV bd11LVT bd2cLV bd2dLVT bd48LV",
   "bd49LVT bd64LV bd65LVT bd80LV bd81LVT bd9cLV bd9dLVT bdb8LV bdb9LVT bdd4LV bdd5LVT bdf0LV",
   "bdf1LVT be0cLV be0dLVT be28LV be29LVT be44LV be45LVT be60LV be61LVT be7cLV be7dLVT be98LV",
   "be99LVT beb4LV beb5LVT bed0LV bed1LVT beecLV beedLVT bf08LV bf09LVT bf24LV bf25LVT bf40LV",
   "bf41LVT bf5cLV bf5dLVT bf78LV bf79LVT bf94LV bf95LVT bfb0LV bfb1LVT bfccLV bfcdLVT bfe8LV",
   "bfe9LVT c004LV c005LVT c020LV c021LVT c03cLV c03dLVT c058LV c059LVT c074LV c075LVT c090LV",
   "c091LVT c0acLV c0adLVT c0c8LV c0c9LVT c0e4LV c0e5LVT c100LV c101LVT c11cLV c11dLVT c138LV",
   "c139LVT c154LV c155LVT c170LV c171LVT c18cLV c18dLVT c1a8LV c1a9LVT c1c4LV c1c5LVT c1e0LV",
   "c1e1LVT c1fcLV c1fdLVT c218LV c219LVT c234LV c235LVT c250LV c251LVT c26cLV c26dLVT c288LV",
   "c289LVT c2a4LV c2a5LVT c2c0LV c2c1LVT c2dcLV c2ddLVT c2f8LV c2f9LVT c314LV c315LVT c330LV",
   "c331LVT c34cLV c34dLVT c368LV c369LVT c384LV c385LVT c3a0LV c3a1LVT c3bcLV c3bdLVT c3d8LV",
   "c3d9LVT c3f4LV c3f5LVT c410LV c411LVT c42cLV c42dLVT c448LV c449LVT c464LV c465LVT c480LV",
   "c481LVT c49cLV c49dLVT c4b8LV c4b9LVT c4d4LV c4d5LVT c4f0LV c4f1LVT c50cLV c50dLVT c528LV",
   "c529LVT c544LV c545LVT c560LV c561LVT c57cLV c57dLVT c598LV c599LVT c5b4LV c5b5LVT c5d0LV",
   "c5d1LVT c5ecLV c5edLVT c608LV c609LVT c624LV c625LVT c640LV c641LVT c65cLV c65dLVT c678LV",
   "c679LVT c694LV c695LVT c6b0LV c6b1LVT c6ccLV c6cdLVT c6e8LV c6e9LVT c704LV c705LVT c720LV",
   "c721LVT c73cLV c73dLVT c758LV c759LVT c774LV c775LVT c790LV c791LVT c7acLV c7adLVT c7c8LV",
   "c7c9LVT c7e4LV c7e5LVT c800LV c801LVT c81cLV c81dLVT c838LV c839LVT c854LV c855LVT c870LV",
   "c871LVT c88cLV c88dLVT c8a8LV c8a9LVT c8c4LV c8c5LVT c8e0LV c8e1LVT c8fcLV c8fdLVT c918LV",
   "c919LVT c934LV c935LVT c950LV c951LVT c96cLV c96dLVT c988LV c989LVT c9a4LV c9a5LVT c9c0LV",
   "c9c1LVT c9dcLV c9ddLVT c9f8LV c9f9LVT ca14LV ca15LVT ca30LV ca31LVT ca4cLV ca4dLVT ca68LV",
   "ca69LVT ca84LV ca85LVT caa0LV caa1LVT cabcLV cabdLVT cad8LV cad9LVT caf4LV caf5LVT cb10LV",
   "cb11LVT cb2cLV cb2dLVT cb48LV cb49LVT cb64LV cb65LVT cb80LV cb81LVT cb9cLV cb9dLVT cbb8LV",
   "cbb9LVT cbd4LV cbd5LVT cbf0LV cbf1LVT cc0cLV cc0dLVT cc28LV cc29LVT cc44LV cc45LVT cc60LV",
   "cc61LVT cc7cLV cc7dLVT cc98LV cc99LVT ccb4LV ccb5LVT ccd0LV ccd1LVT ccecLV ccedLVT cd08LV",
   "cd09LVT cd24LV cd25LVT cd40LV cd41LVT cd5cLV cd5dLVT cd78LV cd79LVT cd94LV cd95LVT cdb0LV",
   "cdb1LVT cdccLV cdcdLVT cde8LV cde9LVT ce04LV ce05LVT ce20LV ce21LVT ce3cLV ce3dLVT ce58LV",
   "ce59LVT ce74LV ce75LVT ce90LV ce91LVT ceacLV ceadLVT cec8LV cec9LVT cee4LV cee5LVT cf00LV",
   "cf01LVT cf1cLV cf1dLVT cf38LV cf39LVT cf54LV cf55LVT cf70LV cf71LVT cf8cLV cf8dLVT cfa8LV",
   "cfa9LVT cfc4LV cfc5LVT cfe0LV cfe1LVT cffcLV cffdLVT d018LV d019LVT d034LV d035LVT d050LV",
   "d051LVT d06cLV d06dLVT d088LV d089LVT d0a4LV d0a5LVT d0c0LV d0c1LVT d0dcLV d0ddLVT d0f8LV",
   "d0f9LVT d114LV d115LVT d130LV d131LVT d14cLV d14dLVT d168LV d169LVT d184LV d185LVT d1a0LV",
   "d1a1LVT d1bcLV d1bdLVT d1d8LV d1d9LVT d1f4LV d1f5LVT d210LV d211LVT d22cLV d22dLVT d248LV",
   "d249LVT d264LV d265LVT d280LV d281LVT d29cLV d29dLVT d2b8LV d2b9LVT d2d4LV d2d5LVT d2f0LV",
   "d2f1LVT d30cLV d30dLVT d328LV d329LVT d344LV d345LVT d360LV d361LVT d37cLV d37dLVT d398LV",
   "d399LVT d3b4LV d3b5LVT d3d0LV d3d1LVT d3ecLV d3edLVT d408LV d409LVT d424LV d425LVT d440LV",
   "d441LVT d45cLV d45dLVT d478LV d479LVT d494LV d495LVT d4b0LV d4b1LVT d4ccLV d4cdLVT d4e8LV",
   "d4e9LVT d504LV d505LVT d520LV d521LVT d53cLV d53dLVT d558LV d559LVT d574LV d575LVT d590LV",
   "d591LVT d5acLV d5adLVT d5c8LV d5c9LVT d5e4LV d5e5LVT d600LV d601LVT d61cLV d61dLVT d638LV",
   "d639LVT d654LV d655LVT d670LV d671LVT d68cLV d68dLVT d6a8LV d6a9LVT d6c4LV d6c5LVT d6e0LV",
   "d6e1LVT d6fcLV d6fdLVT d718LV d719LVT d734LV d735LVT d750LV d751LVT d76cLV d76dLVT d788LV",
   "d789LVT d7a4Other d7b0V d7c7Other d7cbT d7fcOther fb1eExtend fb1fOther fe00Extend fe10Other",
   "fe20Extend fe30Other feffControl ff00Other ff9eExtend ffa0Other fff0Control fffcOther",
   "101fdExtend 101feOther 102e0Extend 102e1Other 10376Extend 1037bOther 10a01Extend 10a04Other",
   "10a05Extend 10a07Other 10a0cExtend 10a10Other 10a38Extend 10a3bOther 10a3fExtend 10a40Other",
   "10ae5Extend 10ae7Other 10d24Extend 10d28Other 10d69Extend 10d6eOther 10eabExtend 10eadOther",
   "10efcExtend 10f00Other 10f46Extend 10f51Other 10f82Extend 10f86Other 11000SpacingMark",
   "11001Extend 11002SpacingMark 11003Other 11038Extend 11047Other 11070Extend 11071Other",
   "11073Extend 11075Other 1107fExtend 11082SpacingMark 11083Other 110b0SpacingMark 110b3Extend",
   "110b7SpacingMark 110b9Extend 110bbOther 110bdPrepend 110beOther 110c2Extend 110c3Other",
   "110cdPrepend 110ceOther 11100Extend 11103Other 11127Extend 1112cSpacingMark 1112dExtend",
   "11135Other 11145SpacingMark 11147Other 11173Extend 11174Other 11180Extend 11182SpacingMark",
   "11183Other 111b3SpacingMark 111b6Extend 111bfSpacingMark 111c0Extend 111c1Other 111c2Prepend",
   "111c4Other 111c9Extend 111cdOther 111ceSpacingMark 111cfExtend 111d0Other 1122cSpacingMark",
   "1122fExtend 11232SpacingMark 11234Extend 11238Other 1123eExtend 1123fOther 11241Extend",
   "11242Other 112dfExtend 112e0SpacingMark 112e3Extend 112ebOther 11300Extend 11302SpacingMark",
   "11304Other 1133bExtend 1133dOther 1133eExtend 1133fSpacingMark 11340Extend 11341SpacingMark",
   "11345Other 11347SpacingMark 11349Other 1134bSpacingMark 1134dExtend 1134eOther 11357Extend",
   "11358Other 11362SpacingMark 11364Other 11366Extend 1136dOther 11370Extend 11375Other 113b8Extend",
   "113b9SpacingMark 113bbExtend 113c1Other 113c2Extend 113c3Other 113c5Extend 113c6Other",
   "113c7Extend 113caSpacingMark 113cbOther 113ccSpacingMark 113ceExtend 113d1Prepend 113d2Extend",
   "113d3Other 113e1Extend 113e3Other 11435SpacingMark 11438Extend 11440SpacingMark 11442Extend",
   "11445SpacingMark 11446Extend 11447Other 1145eExtend 1145fOther 114b0Extend 114b1SpacingMark",
   "114b3Extend 114b9SpacingMark 114baExtend 114bbSpacingMark 114bdExtend 114beSpacingMark",
   "114bfExtend 114c1SpacingMark 114c2Extend 114c4Other 115afExtend 115b0SpacingMark 115b2Extend",
   "115b6Other 115b8SpacingMark 115bcExtend 115beSpacingMark 115bfExtend 115c1Other 115dcExtend",
   "115deOther 11630SpacingMark 11633Extend 1163bSpacingMark 1163dExtend 1163eSpacingMark",
   "1163fExtend 11641Other 116abExtend 116acSpacingMark 116adExtend 116aeSpacingMark 116b0Extend",
   "116b8Other 1171dExtend 1171eSpacingMark 1171fExtend 11720Other 11722Extend 11726SpacingMark",
   "11727Extend 1172cOther 1182cSpacingMark 1182fExtend 11838SpacingMark 11839Extend 1183bOther",
   "11930Extend 11931SpacingMark 11936Other 11937SpacingMark 11939Other 1193bExtend 1193fPrepend",
   "11940SpacingMark 11941Prepend 11942SpacingMark 11943Extend 11944Other 119d1SpacingMark",
   "119d4Extend 119d8Other 119daExtend 119dcSpacingMark 119e0Extend 119e1Other 119e4SpacingMark",
   "119e5Other 11a01Extend 11a0bOther 11a33Extend 11a39SpacingMark 11a3aPrepend 11a3bExtend",
   "11a3fOther 11a47Extend 11a48Other 11a51Extend 11a57SpacingMark 11a59Extend 11a5cOther",
   "11a84Prepend 11a8aExtend 11a97SpacingMark 11a98Extend 11a9aOther 11c2fSpacingMark 11c30Extend",
   "11c37Other 11c38Extend 11c3eSpacingMark 11c3fExtend 11c40Other 11c92Extend 11ca8Other",
   "11ca9SpacingMark 11caaExtend 11cb1SpacingMark 11cb2Extend 11cb4SpacingMark 11cb5Extend",
   "11cb7Other 11d31Extend 11d37Other 11d3aExtend 11d3bOther 11d3cExtend 11d3eOther 11d3fExtend",
   "11d46Prepend 11d47Extend 11d48Other 11d8aSpacingMark 11d8fOther 11d90Extend 11d92Other",
   "11d93SpacingMark 11d95Extend 11d96SpacingMark 11d97Extend 11d98Other 11ef3Extend",
   "11ef5SpacingMark 11ef7Other 11f00Extend 11f02Prepend 11f03SpacingMark 11f04Other",
   "11f34SpacingMark 11f36Extend 11f3bOther 11f3eSpacingMark 11f40Extend 11f43Other 11f5aExtend",
   "11f5bOther 13430Control 13440Extend 13441Other 13447Extend 13456Other 1611eExtend",
   "1612aSpacingMark 1612dExtend 16130Other 16af0Extend 16af5Other 16b30Extend 16b37Other 16d63V",
   "16d64Other 16d67V 16d6bOther 16f4fExtend 16f50Other 16f51SpacingMark 16f88Other 16f8fExtend",
   "16f93Other 16fe4Extend 16fe5Other 16ff0Extend 16ff2Other 1bc9dExtend 1bc9fOther 1bca0Control",
   "1bca4Other 1cf00Extend 1cf2eOther 1cf30Extend 1cf47Other 1d165Extend 1d16aOther 1d16dExtend",
   "1d173Control 1d17bExtend 1d183Other 1d185Extend 1d18cOther 1d1aaExtend 1d1aeOther 1d242Extend",
   "1d245Other 1da00Extend 1da37Other 1da3bExtend 1da6dOther 1da75Extend 1da76Other 1da84Extend",
   "1da85Other 1da9bExtend 1daa0Other 1daa1Extend 1dab0Other 1e000Extend 1e007Other 1e008Extend",
   "1e019Other 1e01bExtend 1e022Other 1e023Extend 1e025Other 1e026Extend 1e02bOther 1e08fExtend",
   "1e090Other 1e130Extend 1e137Other 1e2aeExtend 1e2afOther 1e2ecExtend 1e2f0Other 1e4ecExtend",
   "1e4f0Other 1e5eeExtend 1e5f0Other 1e8d0Extend 1e8d7Other 1e944Extend 1e94bOther",
   "1f1e6RegionalIndicator 1f200Other 1f3fbExtend 1f400Other e0000Control e0020Extend e0080Control",
   "e0100Extend e01f0Control e1000Other"]

/-- Word_Break of every code point. -/
def wordTable : List String :=
  ["0Other aLF bNewline dCR eOther 20WSegSpace 21Other 22DoubleQuote 23Other 27SingleQuote 28Other",
   "2cMidNum 2dOther 2eMidNumLet 2fOther 30Numeric 3aMidLetter 3bMidNum 3cOther 41ALetter 5bOther",
   "5fExtendNumLet 60Other 61ALetter 7bOther 85Newline 86Other aaALetter abOther adFormat aeOther",
   "b5ALetter b6Other b7MidLetter b8Other baALetter bbOther c0ALetter d7Other d8ALetter f7Other",
   "f8ALetter 2d8Other 2deALetter 300Extend 370ALetter 375Other 376ALetter 378Other 37aALetter",
   "37eMidNum 37fALetter 380Other 386ALetter 387MidLetter 388ALetter 38bOther 38cALetter 38dOther",
   "38eALetter 3a2Other 3a3ALetter 3f6Other 3f7ALetter 482Other 483Extend 48aALetter 530Other",
   "531ALetter 557Other 559ALetter 55dOther 55eALetter 55fMidLetter 560ALetter 589MidNum 58aALetter",
   "58bOther 591Extend 5beOther 5bfExtend 5c0Other 5c1Extend 5c3Other 5c4Extend 5c6Other 5c7Extend",
   "5c8Other 5d0HebrewLetter 5ebOther 5efHebrewLetter 5f3ALetter 5f4MidLetter 5f5Other 600Format",
   "606Other 60cMidNum 60eOther 610Extend 61bOther 61cFormat 61dOther 620ALetter 64bExtend",
   "660Numeric 66aOther 66bNumeric 66cMidNum 66dOther 66eALetter 670Extend 671ALetter 6d4Other",
   "6d5ALetter 6d6Extend 6ddFormat 6deOther 6dfExtend 6e5ALetter 6e7Extend 6e9Other 6eaExtend",
   "6eeALetter 6f0Numeric 6faALetter 6fdOther 6ffALetter 700Other 70fFormat 710ALetter 711Extend",
   "712ALetter 730Extend 74bOther 74dALetter 7a6Extend 7b1ALetter 7b2Other 7c0Numeric 7caALetter",
   "7ebExtend 7f4ALetter 7f6Other 7f8MidNum 7f9Other 7faALetter 7fbOther 7fdExtend 7feOther",
   "800ALetter 816Extend 81aALetter 81bExtend 824ALetter 825Extend 828ALetter 829Extend 82eOther",
   "840ALetter 859Extend 85cOther 860ALetter 86bOther 870ALetter 888Other 889ALetter 88fOther",
   "890Format 892Other 897Extend 8a0ALetter 8caExtend 8e2Format 8e3Extend 904ALetter 93aExtend",
   "93dALetter 93eExtend 950ALetter 951Extend 958ALetter 962Extend 964Other 966Numeric 970Other",
   "971ALetter 981Extend 984Other 985ALetter 98dOther 98fALetter 991Other 993ALetter 9a9Other",
   "9aaALetter 9b1Other 9b2ALetter 9b3Other 9b6ALetter 9baOther 9bcExtend 9bdALetter 9beExtend",
   "9c5Other 9c7Extend 9c9Other 9cbExtend 9ceALetter 9cfOther 9d7Extend 9d8Other 9dcALetter 9deOther",
   "9dfALetter 9e2Extend 9e4Other 9e6Numeric 9f0ALetter 9f2Other 9fcALetter 9fdOther 9feExtend",
   "9ffOther a01Extend a04Other a05ALetter a0bOther a0fALetter a11Other a13ALetter a29Other",
   "a2aALetter a31Other a32ALetter a34Other a35ALetter a37Other a38ALetter a3aOther a3cExtend",
   "a3dOther a3eExtend a43Other a47Extend a49Other a4bExtend a4eOther a51Extend a52Other a59ALetter",
   "a5dOther a5eALetter a5fOther a66Numeric a70Extend a72ALetter a75Extend a76Other a81Extend",
   "a84Other a85ALetter a8eOther a8fALetter a92Other a93ALetter aa9Other aaaALetter ab1Other",
   "ab2ALetter ab4Other ab5ALetter abaOther abcExtend abdALetter abeExtend ac6Other ac7Extend",
   "acaOther acbExtend aceOther ad0ALetter ad1Other ae0ALetter ae2Extend ae4Other ae6Numeric",
   "af0Other af9ALetter afaExtend b00Other b01Extend b04Other b05ALetter b0dOther b0fALetter",
   "b11Other b13ALetter b29Other b2aALetter b31Other b32ALetter b34Other b35ALetter b3aOther",
   "b3cExtend b3dALetter b3eExtend b45Other b47Extend b49Other b4bExtend b4eOther b55Extend b58Other",
   "b5cALetter b5eOther b5fALetter b62Extend b64Other b66Numeric b70Other b71ALetter b72Other",
   "b82Extend b83ALetter b84Other b85ALetter b8bOther b8eALetter b91Other b92ALetter b96Other",
   "b99ALetter b9bOther b9cALetter b9dOther b9eALetter ba0Other ba3ALetter ba5Other ba8ALetter",
   "babOther baeALetter bbaOther bbeExtend bc3Other bc6Extend bc9Other bcaExtend bceOther bd0ALetter",
   "bd1Other bd7Extend bd8Other be6Numeric bf0Other c00Extend c05ALetter c0dOther c0eALetter",
   "c11Other c12ALetter c29Other c2aALetter c3aOther c3cExtend c3dALetter c3eExtend c45Other",
   "c46Extend c49Other c4aExtend c4eOther c55Extend c57Other c58ALetter c5bOther c5dALetter c5eOther",
   "c60ALetter c62Extend c64Other c66Numeric c70Other c80ALetter c81Extend c84Other c85ALetter",
   "c8dOther c8eALetter c91Other c92ALetter ca9Other caaALetter cb4Other cb5ALetter cbaOther",
   "cbcExtend cbdALetter cbeExtend cc5Other cc6Extend cc9Other ccaExtend cceOther cd5Extend cd7Other",
   "cddALetter cdfOther ce0ALetter ce2Extend ce4Other ce6Numeric cf0Other cf1ALetter cf3Extend",
   "cf4Other d00Extend d04ALetter d0dOther d0eALetter d11Other d12ALetter d3bExtend d3dALetter",
   "d3eExtend d45Other d46Extend d49Other d4aExtend d4eALetter d4fOther d54ALetter d57Extend",
   "d58Other d5fALetter d62Extend d64Other d66Numeric d70Other d7aALetter d80Other d81Extend",
   "d84Other d85ALetter d97Other d9aALetter db2Other db3ALetter dbcOther dbdALetter dbeOther",
   "dc0ALetter dc7Other dcaExtend dcbOther dcfExtend dd5Other dd6Extend dd7Other dd8Extend de0Other",
   "de6Numeric df0Other df2Extend df4Other e31Extend e32Other e34Extend e3bOther e47Extend e4fOther",
   "e50Numeric e5aOther eb1Extend eb2Other eb4Extend ebdOther ec8Extend ecfOther ed0Numeric edaOther",
   "f00ALetter f01Other f18Extend f1aOther f20Numeric f2aOther f35Extend f36Other f37Extend f38Other",
   "f39Extend f3aOther f3eExtend f40ALetter f48Other f49ALetter f6dOther f71Extend f85Other",
   "f86Extend f88ALetter f8dExtend f98Other f99Extend fbdOther fc6Extend fc7Other 102bExtend",
   "103fOther 1040Numeric 104aOther 1056Extend 105aOther 105eExtend 1061Other 1062Extend 1065Other",
   "1067Extend 106eOther 1071Extend 1075Other 1082Extend 108eOther 108fExtend 1090Numeric 109aExtend",
   "109eOther 10a0ALetter 10c6Other 10c7ALetter 10c8Other 10cdALetter 10ceOther 10d0ALetter",
   "10fbOther 10fcALetter 1249Other 124aALetter 124eOther 1250ALetter 1257Other 1258ALetter",
   "1259Other 125aALetter 125eOther 1260ALetter 1289Other 128aALetter 128eOther 1290ALetter",
   "12b1Other 12b2ALetter 12b6Other 12b8ALetter 12bfOther 12c0ALetter 12c1Other 12c2ALetter",
   "12c6Other 12c8ALetter 12d7Other 12d8ALetter 1311Other 1312ALetter 1316Other 1318ALetter",
   "135bOther 135dExtend 1360Other 1380ALetter 1390Other 13a0ALetter 13f6Other 13f8ALetter 13feOther",
   "1401ALetter 166dOther 166fALetter 1680WSegSpace 1681ALetter 169bOther 16a0ALetter 16ebOther",
   "16eeALetter 16f9Other 1700ALetter 1712Extend 1716Other 171fALetter 1732Extend 1735Other",
   "1740ALetter 1752Extend 1754Other 1760ALetter 176dOther 176eALetter 1771Other 1772Extend",
   "1774Other 17b4Extend 17d4Other 17ddExtend 17deOther 17e0Numeric 17eaOther 180bExtend 180eFormat",
   "180fExtend 1810Numeric 181aOther 1820ALetter 1879Other 1880ALetter 1885Extend 1887ALetter",
   "18a9Extend 18aaALetter 18abOther 18b0ALetter 18f6Other 1900ALetter 191fOther 1920Extend",
   "192cOther 1930Extend 193cOther 1946Numeric 1950Other 19d0Numeric 19daOther 1a00ALetter",
   "1a17Extend 1a1cOther 1a55Extend 1a5fOther 1a60Extend 1a7dOther 1a7fExtend 1a80Numeric 1a8aOther",
   "1a90Numeric 1a9aOther 1ab0Extend 1acfOther 1b00Extend 1b05ALetter 1b34Extend 1b45ALetter",
   "1b4dOther 1b50Numeric 1b5aOther 1b6bExtend 1b74Other 1b80Extend 1b83ALetter 1ba1Extend",
   "1baeALetter 1bb0Numeric 1bbaALetter 1be6Extend 1bf4Other 1c00ALetter 1c24Extend 1c38Other",
   "1c40Numeric 1c4aOther 1c4dALetter 1c50Numeric 1c5aALetter 1c7eOther 1c80ALetter 1c8bOther",
   "1c90ALetter 1cbbOther 1cbdALetter 1cc0Other 1cd0Extend 1cd3Other 1cd4Extend 1ce9ALetter",
   "1cedExtend 1ceeALetter 1cf4Extend 1cf5ALetter 1cf7Extend 1cfaALetter 1cfbOther 1d00ALetter",
   "1dc0Extend 1e00ALetter 1f16Other 1f18ALetter 1f1eOther 1f20ALetter 1f46Other 1f48ALetter",
   "1f4eOther 1f50ALetter 1f58Other 1f59ALetter 1f5aOther 1f5bALetter 1f5cOther 1f5dALetter",
   "1f5eOther 1f5fALetter 1f7eOther 1f80ALetter 1fb5Other 1fb6ALetter 1fbdOther 1fbeALetter",
   "1fbfOther 1fc2ALetter 1fc5Other 1fc6ALetter 1fcdOther 1fd0ALetter 1fd4Other 1fd6ALetter",
   "1fdcOther 1fe0ALetter 1fedOther 1ff2ALetter 1ff5Other 1ff6ALetter 1ffdOther 2000WSegSpace",
   "2007Other 2008WSegSpace 200bOther 200cExtend 200dZWJ 200eFormat 2010Other 2018MidNumLet",
   "201aOther 2024MidNumLet 2025Other 2027MidLetter 2028Newline 202aFormat 202fExtendNumLet",
   "2030Other 203fExtendNumLet 2041Other 2044MidNum 2045Other 2054ExtendNumLet 2055Other",
   "205fWSegSpace 2060Format 2065Other 2066Format 2070Other 2071ALetter 2072Other 207fALetter",
   "2080Other 2090ALetter 209dOther 20d0Extend 20f1Other 2102ALetter 2103Other 2107ALetter 2108Other",
   "210aALetter 2114Other 2115ALetter 2116Other 2119ALetter 211eOther 2124ALetter 2125Other",
   "2126ALetter 2127Other 2128ALetter 2129Other 212aALetter 212eOther 212fALetter 213aOther",
   "213cALetter 2140Other 2145ALetter 214aOther 214eALetter 214fOther 2160ALetter 2189Other",
   "24b6ALetter 24eaOther 2c00ALetter 2ce5Other 2cebALetter 2cefExtend 2cf2ALetter 2cf4Other",
   "2d00ALetter 2d26Other 2d27ALetter 2d28Other 2d2dALetter 2d2eOther 2d30ALetter 2d68Other",
   "2d6fALetter 2d70Other 2d7fExtend 2d80ALetter 2d97Other 2da0ALetter 2da7Other 2da8ALetter",
   "2dafOther 2db0ALetter 2db7Other 2db8ALetter 2dbfOther 2dc0ALetter 2dc7Other 2dc8ALetter",
   "2dcfOther 2dd0ALetter 2dd7Other 2dd8ALetter 2ddfOther 2de0Extend 2e00Other 2e2fALetter 2e30Other",
   "3000WSegSpace 3001Other 3005ALetter 3006Other 302aExtend 3030Other 3031Katakana 3036Other",
   "303bALetter 303dOther 3099Extend 309bKatakana 309dOther 30a0Katakana 30fbOther 30fcKatakana",
   "3100Other 3105ALetter 3130Other 3131ALetter 318fOther 31a0ALetter 31c0Other 31f0Katakana",
   "3200Other 32d0Katakana 32ffOther 3300Katakana 3358Other a000ALetter a48dOther a4d0ALetter",
   "a4feOther a500ALetter a60dOther a610ALetter a620Numeric a62aALetter a62cOther a640ALetter",
   "a66fExtend a673Other a674Extend a67eOther a67fALetter a69eExtend a6a0ALetter a6f0Extend",
   "a6f2Other a708ALetter a7ceOther a7d0ALetter a7d2Other a7d3ALetter a7d4Other a7d5ALetter",
   "a7ddOther a7f2ALetter a802Extend a803ALetter a806Extend a807ALetter a80bExtend a80cALetter",
   "a823Extend a828Other a82cExtend a82dOther a840ALetter a874Other a880Extend a882ALetter",
   "a8b4Extend a8c6Other a8d0Numeric a8daOther a8e0Extend a8f2ALetter a8f8Other a8fbALetter",
   "a8fcOther a8fdALetter a8ffExtend a900Numeric a90aALetter a926Extend a92eOther a930ALetter",
   "a947Extend a954Other a960ALetter a97dOther a980Extend a984ALetter a9b3Extend a9c1Other",
   "a9cfALetter a9d0Numeric a9daOther a9e5Extend a9e6Other a9f0Numeric a9faOther aa00ALetter",
   "aa29Extend aa37Other aa40ALetter aa43Extend aa44ALetter aa4cExtend aa4eOther aa50Numeric",
   "aa5aOther aa7bExtend aa7eOther aab0Extend aab1Other aab2Extend aab5Other aab7Extend aab9Other",
   "aabeExtend aac0Other aac1Extend aac2Other aae0ALetter aaebExtend aaf0Other aaf2ALetter",
   "aaf5Extend aaf7Other ab01ALetter ab07Other ab09ALetter ab0fOther ab11ALetter ab17Other",
   "ab20ALetter ab27Other ab28ALetter ab2fOther ab30ALetter ab6aOther ab70ALetter abe3Extend",
   "abebOther abecExtend abeeOther abf0Numeric abfaOther ac00ALetter d7a4Other d7b0ALetter d7c7Other",
   "d7cbALetter d7fcOther fb00ALetter fb07Other fb13ALetter fb18Other fb1dHebrewLetter fb1eExtend",
   "fb1fHebrewLetter fb29Other fb2aHebrewLetter fb37Other fb38HebrewLetter fb3dOther",
   "fb3eHebrewLetter fb3fOther fb40HebrewLetter fb42Other fb43HebrewLetter fb45Other",
   "fb46HebrewLetter fb50ALetter fbb2Other fbd3ALetter fd3eOther fd50ALetter fd90Other fd92ALetter",
   "fdc8Other fdf0ALetter fdfcOther fe00Extend fe10MidNum fe11Other fe13MidLetter fe14MidNum",
   "fe15Other fe20Extend fe30Other fe33ExtendNumLet fe35Other fe4dExtendNumLet fe50MidNum fe51Other",
   "fe52MidNumLet fe53Other fe54MidNum fe55MidLetter fe56Other fe70ALetter fe75Other fe76ALetter",
   "fefdOther feffFormat ff00Other ff07MidNumLet ff08Other ff0cMidNum ff0dOther ff0eMidNumLet",
   "ff0fOther ff10Numeric ff1aMidLetter ff1bMidNum ff1cOther ff21ALetter ff3bOther ff3fExtendNumLet",
   "ff40Other ff41ALetter ff5bOther ff66Katakana ff9eExtend ffa0ALetter ffbfOther ffc2ALetter",
   "ffc8Other ffcaALetter ffd0Other ffd2ALetter ffd8Other ffdaALetter ffddOther fff9Format fffcOther",
   "10000ALetter 1000cOther 1000dALetter 10027Other 10028ALetter 1003bOther 1003cALetter 1003eOther",
   "1003fALetter 1004eOther 10050ALetter 1005eOther 10080ALetter 100fbOther 10140ALetter 10175Other",
   "101fdExtend 101feOther 10280ALetter 1029dOther 102a0ALetter 102d1Other 102e0Extend 102e1Other",
   "10300ALetter 10320Other 1032dALetter 1034bOther 10350ALetter 10376Extend 1037bOther 10380ALetter",
   "1039eOther 103a0ALetter 103c4Other 103c8ALetter 103d0Other 103d1ALetter 103d6Other 10400ALetter",
   "1049eOther 104a0Numeric 104aaOther 104b0ALetter 104d4Other 104d8ALetter 104fcOther 10500ALetter",
   "10528Other 10530ALetter 10564Other 10570ALetter 1057bOther 1057cALetter 1058bOther 1058cALetter",
   "10593Other 10594ALetter 10596Other 10597ALetter 105a2Other 105a3ALetter 105b2Other 105b3ALetter",
   "105baOther 105bbALetter 105bdOther 105c0ALetter 105f4Other 10600ALetter 10737Other 10740ALetter",
   "10756Other 10760ALetter 10768Other 10780ALetter 10786Other 10787ALetter 107b1Other 107b2ALetter",
   "107bbOther 10800ALetter 10806Other 10808ALetter 10809Other 1080aALetter 10836Other 10837ALetter",
   "10839Other 1083cALetter 1083dOther 1083fALetter 10856Other 10860ALetter 10877Other 10880ALetter",
   "1089fOther 108e0ALetter 108f3Other 108f4ALetter 108f6Other 10900ALetter 10916Other 10920ALetter",
   "1093aOther 10980ALetter 109b8Other 109beALetter 109c0Other 10a00ALetter 10a01Extend 10a04Other",
   "10a05Extend 10a07Other 10a0cExtend 10a10ALetter 10a14Other 10a15ALetter 10a18Other 10a19ALetter",
   "10a36Other 10a38Extend 10a3bOther 10a3fExtend 10a40Other 10a60ALetter 10a7dOther 10a80ALetter",
   "10a9dOther 10ac0ALetter 10ac8Other 10ac9ALetter 10ae5Extend 10ae7Other 10b00ALetter 10b36Other",
   "10b40ALetter 10b56Other 10b60ALetter 10b73Other 10b80ALetter 10b92Other 10c00ALetter 10c49Other",
   "10c80ALetter 10cb3Other 10cc0ALetter 10cf3Other 10d00ALetter 10d24Extend 10d28Other 10d30Numeric",
   "10d3aOther 10d40Numeric 10d4aALetter 10d66Other 10d69Extend 10d6eOther 10d6fALetter 10d86Other",
   "10e80ALetter 10eaaOther 10eabExtend 10eadOther 10eb0ALetter 10eb2Other 10ec2ALetter 10ec5Other",
   "10efcExtend 10f00ALetter 10f1dOther 10f27ALetter 10f28Other 10f30ALetter 10f46Extend 10f51Other",
   "10f70ALetter 10f82Extend 10f86Other 10fb0ALetter 10fc5Other 10fe0ALetter 10ff7Other 11000Extend",
   "11003ALetter 11038Extend 11047Other 11066Numeric 11070Extend 11071ALetter 11073Extend",
   "11075ALetter 11076Other 1107fExtend 11083ALetter 110b0Extend 110bbOther 110bdFormat 110beOther",
   "110c2Extend 110c3Other 110cdFormat 110ceOther 110d0ALetter 110e9Other 110f0Numeric 110faOther",
   "11100Extend 11103ALetter 11127Extend 11135Other 11136Numeric 11140Other 11144ALetter 11145Extend",
   "11147ALetter 11148Other 11150ALetter 11173Extend 11174Other 11176ALetter 11177Other 11180Extend",
   "11183ALetter 111b3Extend 111c1ALetter 111c5Other 111c9Extend 111cdOther 111ceExtend 111d0Numeric",
   "111daALetter 111dbOther 111dcALetter 111ddOther 11200ALetter 11212Other 11213ALetter 1122cExtend",
   "11238Other 1123eExtend 1123fALetter 11241Extend 11242Other 11280ALetter 11287Other 11288ALetter",
   "11289Other 1128aALetter 1128eOther 1128fALetter 1129eOther 1129fALetter 112a9Other 112b0ALetter",
   "112dfExtend 112ebOther 112f0Numeric 112faOther 11300Extend 11304Other 11305ALetter 1130dOther",
   "1130fALetter 11311Other 11313ALetter 11329Other 1132aALetter 11331Other 11332ALetter 11334Other",
   "11335ALetter 1133aOther 1133bExtend 1133dALetter 1133eExtend 11345Other 11347Extend 11349Other",
   "1134bExtend 1134eOther 11350ALetter 11351Other 11357Extend 11358Other 1135dALetter 11362Extend",
   "11364Other 11366Extend 1136dOther 11370Extend 11375Other 11380ALetter 1138aOther 1138bALetter",
   "1138cOther 1138eALetter 1138fOther 11390ALetter 113b6Other 113b7ALetter 113b8Extend 113c1Other",
   "113c2Extend 113c3Other 113c5Extend 113c6Other 113c7Extend 113cbOther 113ccExtend 113d1ALetter",
   "113d2Extend 113d3ALetter 113d4Other 113e1Extend 113e3Other 11400ALetter 11435Extend 11447ALetter",
   "1144bOther 11450Numeric 1145aOther 1145eExtend 1145fALetter 11462Other 11480ALetter 114b0Extend",
   "114c4ALetter 114c6Other 114c7ALetter 114c8Other 114d0Numeric 114daOther 11580ALetter 115afExtend",
   "115b6Other 115b8Extend 115c1Other 115d8ALetter 115dcExtend 115deOther 11600ALetter 11630Extend",
   "11641Other 11644ALetter 11645Other 11650Numeric 1165aOther 11680ALetter 116abExtend 116b8ALetter",
   "116b9Other 116c0Numeric 116caOther 116d0Numeric 116e4Other 1171dExtend 1172cOther 11730Numeric",
   "1173aOther 11800ALetter 1182cExtend 1183bOther 118a0ALetter 118e0Numeric 118eaOther 118ffALetter",
   "11907Other 11909ALetter 1190aOther 1190cALetter 11914Other 11915ALetter 11917Other 11918ALetter",
   "11930Extend 11936Other 11937Extend 11939Other 1193bExtend 1193fALetter 11940Extend 11941ALetter",
   "11942Extend 11944Other 11950Numeric 1195aOther 119a0ALetter 119a8Other 119aaALetter 119d1Extend",
   "119d8Other 119daExtend 119e1ALetter 119e2Other 119e3ALetter 119e4Extend 119e5Other 11a00ALetter",
   "11a01Extend 11a0bALetter 11a33Extend 11a3aALetter 11a3bExtend 11a3fOther 11a47Extend 11a48Other",
   "11a50ALetter 11a51Extend 11a5cALetter 11a8aExtend 11a9aOther 11a9dALetter 11a9eOther",
   "11ab0ALetter 11af9Other 11bc0ALetter 11be1Other 11bf0Numeric 11bfaOther 11c00ALetter 11c09Other",
   "11c0aALetter 11c2fExtend 11c37Other 11c38Extend 11c40ALetter 11c41Other 11c50Numeric 11c5aOther",
   "11c72ALetter 11c90Other 11c92Extend 11ca8Other 11ca9Extend 11cb7Other 11d00ALetter 11d07Other",
   "11d08ALetter 11d0aOther 11d0bALetter 11d31Extend 11d37Other 11d3aExtend 11d3bOther 11d3cExtend",
   "11d3eOther 11d3fExtend 11d46ALetter 11d47Extend 11d48Other 11d50Numeric 11d5aOther 11d60ALetter",
   "11d66Other 11d67ALetter 11d69Other 11d6aALetter 11d8aExtend 11d8fOther 11d90Extend 11d92Other",
   "11d93Extend 11d98ALetter 11d99Other 11da0Numeric 11daaOther 11ee0ALetter 11ef3Extend 11ef7Other",
   "11f00Extend 11f02ALetter 11f03Extend 11f04ALetter 11f11Other 11f12ALetter 11f34Extend 11f3bOther",
   "11f3eExtend 11f43Other 11f50Numeric 11f5aExtend 11f5bOther 11fb0ALetter 11fb1Other 12000ALetter",
   "1239aOther 12400ALetter 1246fOther 12480ALetter 12544Other 12f90ALetter 12ff1Other 13000ALetter",
   "13430Format 13440Extend 13441ALetter 13447Extend 13456Other 13460ALetter 143fbOther 14400ALetter",
   "14647Other 16100ALetter 1611eExtend 16130Numeric 1613aOther 16800ALetter 16a39Other 16a40ALetter",
   "16a5fOther 16a60Numeric 16a6aOther 16a70ALetter 16abfOther 16ac0Numeric 16acaOther 16ad0ALetter",
   "16aeeOther 16af0Extend 16af5Other 16b00ALetter 16b30Extend 16b37Other 16b40ALetter 16b44Other",
   "16b50Numeric 16b5aOther 16b63ALetter 16b78Other 16b7dALetter 16b90Other 16d40ALetter 16d6dOther",
   "16d70Numeric 16d7aOther 16e40ALetter 16e80Other 16f00ALetter 16f4bOther 16f4fExtend 16f50ALetter",
   "16f51Extend 16f88Other 16f8fExtend 16f93ALetter 16fa0Other 16fe0ALetter 16fe2Other 16fe3ALetter",
   "16fe4Extend 16fe5Other 16ff0Extend 16ff2Other 1aff0Katakana 1aff4Other 1aff5Katakana 1affcOther",
   "1affdKatakana 1afffOther 1b000Katakana 1b001Other 1b120Katakana 1b123Other 1b155Katakana",
   "1b156Other 1b164Katakana 1b168Other 1bc00ALetter 1bc6bOther 1bc70ALetter 1bc7dOther 1bc80ALetter",
   "1bc89Other 1bc90ALetter 1bc9aOther 1bc9dExtend 1bc9fOther 1bca0Format 1bca4Other 1ccf0Numeric",
   "1ccfaOther 1cf00Extend 1cf2eOther 1cf30Extend 1cf47Other 1d165Extend 1d16aOther 1d16dExtend",
   "1d173Format 1d17bExtend 1d183Other 1d185Extend 1d18cOther 1d1aaExtend 1d1aeOther 1d242Extend",
   "1d245Other 1d400ALetter 1d455Other 1d456ALetter 1d49dOther 1d49eALetter 1d4a0Other 1d4a2ALetter",
   "1d4a3Other 1d4a5ALetter 1d4a7Other 1d4a9ALetter 1d4adOther 1d4aeALetter 1d4baOther 1d4bbALetter",
   "1d4bcOther 1d4bdALetter 1d4c4Other 1d4c5ALetter 1d506Other 1d507ALetter 1d50bOther 1d50dALetter",
   "1d515Other 1d516ALetter 1d51dOther 1d51eALetter 1d53aOther 1d53bALetter 1d53fOther 1d540ALetter",
   "1d545Other 1d546ALetter 1d547Other 1d54aALetter 1d551Other 1d552ALetter 1d6a6Other 1d6a8ALetter",
   "1d6c1Other 1d6c2ALetter 1d6dbOther 1d6dcALetter 1d6fbOther 1d6fcALetter 1d715Other 1d716ALetter",
   "1d735Other 1d736ALetter 1d74fOther 1d750ALetter 1d76fOther 1d770ALetter 1d789Other 1d78aALetter",
   "1d7a9Other 1d7aaALetter 1d7c3Other 1d7c4ALetter 1d7ccOther 1d7ceNumeric 1d800Other 1da00Extend",
   "1da37Other 1da3bExtend 1da6dOther 1da75Extend 1da76Other 1da84Extend 1da85Other 1da9bExtend",
   "1daa0Other 1daa1Extend 1dab0Other 1df00ALetter 1df1fOther 1df25ALetter 1df2bOther 1e000Extend",
   "1e007Other 1e008Extend 1e019Other 1e01bExtend 1e022Other 1e023Extend 1e025Other 1e026Extend",
   "1e02bOther 1e030ALetter 1e06eOther 1e08fExtend 1e090Other 1e100ALetter 1e12dOther 1e130Extend",
   "1e137ALetter 1e13eOther 1e140Numeric 1e14aOther 1e14eALetter 1e14fOther 1e290ALetter 1e2aeExtend",
   "1e2afOther 1e2c0ALetter 1e2ecExtend 1e2f0Numeric 1e2faOther 1e4d0ALetter 1e4ecExtend",
   "1e4f0Numeric 1e4faOther 1e5d0ALetter 1e5eeExtend 1e5f0ALetter 1e5f1Numeric 1e5fbOther",
   "1e7e0ALetter 1e7e7Other 1e7e8ALetter 1e7ecOther 1e7edALetter 1e7efOther 1e7f0ALetter 1e7ffOther",
   "1e800ALetter 1e8c5Other 1e8d0Extend 1e8d7Other 1e900ALetter 1e944Extend 1e94bALetter 1e94cOther",
   "1e950Numeric 1e95aOther 1ee00ALetter 1ee04Other 1ee05ALetter 1ee20Other 1ee21ALetter 1ee23Other",
   "1ee24ALetter 1ee25Other 1ee27ALetter 1ee28Other 1ee29ALetter 1ee33Other 1ee34ALetter 1ee38Other",
   "1ee39ALetter 1ee3aOther 1ee3bALetter 1ee3cOther 1ee42ALetter 1ee43Other 1ee47ALetter 1ee48Other",
   "1ee49ALetter 1ee4aOther 1ee4bALetter 1ee4cOther 1ee4dALetter 1ee50Other 1ee51ALetter 1ee53Other",
   "1ee54ALetter 1ee55Other 1ee57ALetter 1ee58Other 1ee59ALetter 1ee5aOther 1ee5bALetter 1ee5cOther",
   "1ee5dALetter 1ee5eOther 1ee5fALetter 1ee60Other 1ee61ALetter 1ee63Other 1ee64ALetter 1ee65Other",
   "1ee67ALetter 1ee6bOther 1ee6cALetter 1ee73Other 1ee74ALetter 1ee78Other 1ee79ALetter 1ee7dOther",
   "1ee7eALetter 1ee7fOther 1ee80ALetter 1ee8aOther 1ee8bALetter 1ee9cOther 1eea1ALetter 1eea4Other",
   "1eea5ALetter 1eeaaOther 1eeabALetter 1eebcOther 1f130ALetter 1f14aOther 1f150ALetter 1f16aOther",
   "1f170ALetter 1f18aOther 1f1e6RegionalIndicator 1f200Other 1f3fbExtend 1f400Other 1fbf0Numeric",
   "1fbfaOther e0001Format e0002Other e0020Extend e0080Other e0100Extend e01f0Other"]

/-- Sentence_Break of every code point. -/
def sentenceTable : List String :=
  ["0Other 9Sp aLF bSp dCR eOther 20Sp 21STerm 22Close 23Other 27Close 2aOther 2cSContinue 2eATerm",
   "2fOther 30Numeric 3aSContinue 3bOther 3fSTerm 40Other 41Upper 5bClose 5cOther 5dClose 5eOther",
   "61Lower 7bClose 7cOther 7dClose 7eOther 85Sep 86Other a0Sp a1Other aaLower abClose acOther",
   "adFormat aeOther b5Lower b6Other baLower bbClose bcOther c0Upper d7Other d8Upper dfLower f7Other",
   "f8Lower 100Upper 101Lower 102Upper 103Lower 104Upper 105Lower 106Upper 107Lower 108Upper",
   "109Lower 10aUpper 10bLower 10cUpper 10dLower 10eUpper 10fLower 110Upper 111Lower 112Upper",
   "113Lower 114Upper 115Lower 116Upper 117Lower 118Upper 119Lower 11aUpper 11bLower 11cUpper",
   "11dLower 11eUpper 11fLower 120Upper 121Lower 122Upper 123Lower 124Upper 125Lower 126Upper",
   "127Lower 128Upper 129Lower 12aUpper 12bLower 12cUpper 12dLower 12eUpper 12fLower 130Upper",
   "131Lower 132Upper 133Lower 134Upper 135Lower 136Upper 137Lower 139Upper 13aLower 13bUpper",
   "13cLower 13dUpper 13eLower 13fUpper 140Lower 141Upper 142Lower 143Upper 144Lower 145Upper",
   "146Lower 147Upper 148Lower 14aUpper 14bLower 14cUpper 14dLower 14eUpper 14fLower 150Upper",
   "151Lower 152Upper 153Lower 154Upper 155Lower 156Upper 157Lower 158Upper 159Lower 15aUpper",
   "15bLower 15cUpper 15dLower 15eUpper 15fLower 160Upper 161Lower 162Upper 163Lower 164Upper",
   "165Lower 166Upper 167Lower 168Upper 169Lower 16aUpper 16bLower 16cUpper 16dLower 16eUpper",
   "16fLower 170Upper 171Lower 172Upper 173Lower 174Upper 175Lower 176Upper 177Lower 178Upper",
   "17aLower 17bUpper 17cLower 17dUpper 17eLower 181Upper 183Lower 184Upper 185Lower 186Upper",
   "188Lower 189Upper 18cLower 18eUpper 192Lower 193Upper 195Lower 196Upper 199Lower 19cUpper",
   "19eLower 19fUpper 1a1Lower 1a2Upper 1a3Lower 1a4Upper 1a5Lower 1a6Upper 1a8Lower 1a9Upper",
   "1aaLower 1acUpper 1adLower 1aeUpper 1b0Lower 1b1Upper 1b4Lower 1b5Upper 1b6Lower 1b7Upper",
   "1b9Lower 1bbOLetter 1bcUpper 1bdLower 1c0OLetter 1c4Upper 1c6Lower 1c7Upper 1c9Lower 1caUpper",
   "1ccLower 1cdUpper 1ceLower 1cfUpper 1d0Lower 1d1Upper 1d2Lower 1d3Upper 1d4Lower 1d5Upper",
   "1d6Lower 1d7Upper 1d8Lower 1d9Upper 1daLower 1dbUpper 1dcLower 1deUpper 1dfLower 1e0Upper",
   "1e1Lower 1e2Upper 1e3Lower 1e4Upper 1e5Lower 1e6Upper 1e7Lower 1e8Upper 1e9Lower 1eaUpper",
   "1ebLower 1ecUpper 1edLower 1eeUpper 1efLower 1f1Upper 1f3Lower 1f4Upper 1f5Lower 1f6Upper",
   "1f9Lower 1faUpper 1fbLower 1fcUpper 1fdLower 1feUpper 1ffLower 200Upper 201Lower 202Upper",
   "203Lower 204Upper 205Lower 206Upper 207Lower 208Upper 209Lower 20aUpper 20bLower 20cUpper",
   "20dLower 20eUpper 20fLower 210Upper 211Lower 212Upper 213Lower 214Upper 215Lower 216Upper",
   "217Lower 218Upper 219Lower 21aUpper 21bLower 21cUpper 21dLower 21eUpper 21fLower 220Upper",
   "221Lower 222Upper 223Lower 224Upper 225Lower 226Upper 227Lower 228Upper 229Lower 22aUpper",
   "22bLower 22cUpper 22dLower 22eUpper 22fLower 230Upper 231Lower 232Upper 233Lower 23aUpper",
   "23cLower 23dUpper 23fLower 241Upper 242Lower 243Upper 247Lower 248Upper 249Lower 24aUpper",
   "24bLower 24cUpper 24dLower 24eUpper 24fLower 294OLetter 295Lower 2b9OLetter 2c0Lower 2c2Other",
   "2c6OLetter 2d2Other 2e0Lower 2e5Other 2ecOLetter 2edOther 2eeOLetter 2efOther 300Extend 370Upper",
   "371Lower 372Upper 373Lower 374OLetter 375Other 376Upper 377Lower 378Other 37aLower 37eOther",
   "37fUpper 380Other 386Upper 387Other 388Upper 38bOther 38cUpper 38dOther 38eUpper 390Lower",
   "391Upper 3a2Other 3a3Upper 3acLower 3cfUpper 3d0Lower 3d2Upper 3d5Lower 3d8Upper 3d9Lower",
   "3daUpper 3dbLower 3dcUpper 3ddLower 3deUpper 3dfLower 3e0Upper 3e1Lower 3e2Upper 3e3Lower",
   "3e4Upper 3e5Lower 3e6Upper 3e7Lower 3e8Upper 3e9Lower 3eaUpper 3ebLower 3ecUpper 3edLower",
   "3eeUpper 3efLower 3f4Upper 3f5Lower 3f6Other 3f7Upper 3f8Lower 3f9Upper 3fbLower 3fdUpper",
   "430Lower 460Upper 461Lower 462Upper 463Lower 464Upper 465Lower 466Upper 467Lower 468Upper",
   "469Lower 46aUpper 46bLower 46cUpper 46dLower 46eUpper 46fLower 470Upper 471Lower 472Upper",
   "473Lower 474Upper 475Lower 476Upper 477Lower 478Upper 479Lower 47aUpper 47bLower 47cUpper",
   "47dLower 47eUpper 47fLower 480Upper 481Lower 482Other 483Extend 48aUpper 48bLower 48cUpper",
   "48dLower 48eUpper 48fLower 490Upper 491Lower 492Upper 493Lower 494Upper 495Lower 496Upper",
   "497Lower 498Upper 499Lower 49aUpper 49bLower 49cUpper 49dLower 49eUpper 49fLower 4a0Upper",
   "4a1Lower 4a2Upper 4a3Lower 4a4Upper 4a5Lower 4a6Upper 4a7Lower 4a8Upper 4a9Lower 4aaUpper",
   "4abLower 4acUpper 4adLower 4aeUpper 4afLower 4b0Upper 4b1Lower 4b2Upper 4b3Lower 4b4Upper",
   "4b5Lower 4b6Upper 4b7Lower 4b8Upper 4b9Lower 4baUpper 4bbLower 4bcUpper 4bdLower 4beUpper",
   "4bfLower 4c0Upper 4c2Lower 4c3Upper 4c4Lower 4c5Upper 4c6Lower 4c7Upper 4c8Lower 4c9Upper",
   "4caLower 4cbUpper 4ccLower 4cdUpper 4ceLower 4d0Upper 4d1Lower 4d2Upper 4d3Lower 4d4Upper",
   "4d5Lower 4d6Upper 4d7Lower 4d8Upper 4d9Lower 4daUpper 4dbLower 4dcUpper 4ddLower 4deUpper",
   "4dfLower 4e0Upper 4e1Lower 4e2Upper 4e3Lower 4e4Upper 4e5Lower 4e6Upper 4e7Lower 4e8Upper",
   "4e9Lower 4eaUpper 4ebLower 4ecUpper 4edLower 4eeUpper 4efLower 4f0Upper 4f1Lower 4f2Upper",
   "4f3Lower 4f4Upper 4f5Lower 4f6Upper 4f7Lower 4f8Upper 4f9Lower 4faUpper 4fbLower 4fcUpper",
   "4fdLower 4feUpper 4ffLower 500Upper 501Lower 502Upper 503Lower 504Upper 505Lower 506Upper",
   "507Lower 508Upper 509Lower 50aUpper 50bLower 50cUpper 50dLower 50eUpper 50fLower 510Upper",
   "511Lower 512Upper 513Lower 514Upper 515Lower 516Upper 517Lower 518Upper 519Lower 51aUpper",
   "51bLower 51cUpper 51dLower 51eUpper 51fLower 520Upper 521Lower 522Upper 523Lower 524Upper",
   "525Lower 526Upper 527Lower 528Upper 529Lower 52aUpper 52bLower 52cUpper 52dLower 52eUpper",
   "52fLower 530Other 531Upper 557Other 559OLetter 55aOther 55dSContinue 55eOther 560Lower 589STerm",
   "58aOther 591Extend 5beOther 5bfExtend 5c0Other 5c1Extend 5c3Other 5c4Extend 5c6Other 5c7Extend",
   "5c8Other 5d0OLetter 5ebOther 5efOLetter 5f4Other 600Format 606Other 60cSContinue 60eOther",
   "610Extend 61bOther 61cFormat 61dSTerm 620OLetter 64bExtend 660Numeric 66aOther 66bNumeric",
   "66dOther 66eOLetter 670Extend 671OLetter 6d4STerm 6d5OLetter 6d6Extend 6ddFormat 6deOther",
   "6dfExtend 6e5OLetter 6e7Extend 6e9Other 6eaExtend 6eeOLetter 6f0Numeric 6faOLetter 6fdOther",
   "6ffOLetter 700STerm 703Other 70fFormat 710OLetter 711Extend 712OLetter 730Extend 74bOther",
   "74dOLetter 7a6Extend 7b1OLetter 7b2Other 7c0Numeric 7caOLetter 7ebExtend 7f4OLetter 7f6Other",
   "7f8SContinue 7f9STerm 7faOLetter 7fbOther 7fdExtend 7feOther 800OLetter 816Extend 81aOLetter",
   "81bExtend 824OLetter 825Extend 828OLetter 829Extend 82eOther 837STerm 838Other 839STerm 83aOther",
   "83dSTerm 83fOther 840OLetter 859Extend 85cOther 860OLetter 86bOther 870OLetter 888Other",
   "889OLetter 88fOther 890Format 892Other 897Extend 8a0OLetter 8caExtend 8e2Format 8e3Extend",
   "904OLetter 93aExtend 93dOLetter 93eExtend 950OLetter 951Extend 958OLetter 962Extend 964STerm",
   "966Numeric 970Other 971OLetter 981Extend 984Other 985OLetter 98dOther 98fOLetter 991Other",
   "993OLetter 9a9Other 9aaOLetter 9b1Other 9b2OLetter 9b3Other 9b6OLetter 9baOther 9bcExtend",
   "9bdOLetter 9beExtend 9c5Other 9c7Extend 9c9Other 9cbExtend 9ceOLetter 9cfOther 9d7Extend",
   "9d8Other 9dcOLetter 9deOther 9dfOLetter 9e2Extend 9e4Other 9e6Numeric 9f0OLetter 9f2Other",
   "9fcOLetter 9fdOther 9feExtend 9ffOther a01Extend a04Other a05OLetter a0bOther a0fOLetter",
   "a11Other a13OLetter a29Other a2aOLetter a31Other a32OLetter a34Other a35OLetter a37Other",
   "a38OLetter a3aOther a3cExtend a3dOther a3eExtend a43Other a47Extend a49Other a4bExtend a4eOther",
   "a51Extend a52Other a59OLetter a5dOther a5eOLetter a5fOther a66Numeric a70Extend a72OLetter",
   "a75Extend a76Other a81Extend a84Other a85OLetter a8eOther a8fOLetter a92Other a93OLetter",
   "aa9Other aaaOLetter ab1Other ab2OLetter ab4Other ab5OLetter abaOther abcExtend abdOLetter",
   "abeExtend ac6Other ac7Extend acaOther acbExtend aceOther ad0OLetter ad1Other ae0OLetter",
   "ae2Extend ae4Other ae6Numeric af0Other af9OLetter afaExtend b00Other b01Extend b04Other",
   "b05OLetter b0dOther b0fOLetter b11Other b13OLetter b29Other b2aOLetter b31Other b32OLetter",
   "b34Other b35OLetter b3aOther b3cExtend b3dOLetter b3eExtend b45Other b47Extend b49Other",
   "b4bExtend b4eOther b55Extend b58Other b5cOLetter b5eOther b5fOLetter b62Extend b64Other",
   "b66Numeric b70Other b71OLetter b72Other b82Extend b83OLetter b84Other b85OLetter b8bOther",
   "b8eOLetter b91Other b92OLetter b96Other b99OLetter b9bOther b9cOLetter b9dOther b9eOLetter",
   "ba0Other ba3OLetter ba5Other ba8OLetter babOther baeOLetter bbaOther bbeExtend bc3Other",
   "bc6Extend bc9Other bcaExtend bceOther bd0OLetter bd1Other bd7Extend bd8Other be6Numeric bf0Other",
   "c00Extend c05OLetter c0dOther c0eOLetter c11Other c12OLetter c29Other c2aOLetter c3aOther",
   "c3cExtend c3dOLetter c3eExtend c45Other c46Extend c49Other c4aExtend c4eOther c55Extend c57Other",
   "c58OLetter c5bOther c5dOLetter c5eOther c60OLetter c62Extend c64Other c66Numeric c70Other",
   "c80OLetter c81Extend c84Other c85OLetter c8dOther c8eOLetter c91Other c92OLetter ca9Other",
   "caaOLetter cb4Other cb5OLetter cbaOther cbcExtend cbdOLetter cbeExtend cc5Other cc6Extend",
   "cc9Other ccaExtend cceOther cd5Extend cd7Other cddOLetter cdfOther ce0OLetter ce2Extend ce4Other",
   "ce6Numeric cf0Other cf1OLetter cf3Extend cf4Other d00Extend d04OLetter d0dOther d0eOLetter",
   "d11Other d12OLetter d3bExtend d3dOLetter d3eExtend d45Other d46Extend d49Other d4aExtend",
   "d4eOLetter d4fOther d54OLetter d57Extend d58Other d5fOLetter d62Extend d64Other d66Numeric",
   "d70Other d7aOLetter d80Other d81Extend d84Other d85OLetter d97Other d9aOLetter db2Other",
   "db3OLetter dbcOther dbdOLetter dbeOther dc0OLetter dc7Other dcaExtend dcbOther dcfExtend",
   "dd5Other dd6Extend dd7Other dd8Extend de0Other de6Numeric df0Other df2Extend df4Other e01OLetter",
   "e31Extend e32OLetter e34Extend e3bOther e40OLetter e47Extend e4fOther e50Numeric e5aOther",
   "e81OLetter e83Other e84OLetter e85Other e86OLetter e8bOther e8cOLetter ea4Other ea5OLetter",
   "ea6Other ea7OLetter eb1Extend eb2OLetter eb4Extend ebdOLetter ebeOther ec0OLetter ec5Other",
   "ec6OLetter ec7Other ec8Extend ecfOther ed0Numeric edaOther edcOLetter ee0Other f00OLetter",
   "f01Other f18Extend f1aOther f20Numeric f2aOther f35Extend f36Other f37Extend f38Other f39Extend",
   "f3aClose f3eExtend f40OLetter f48Other f49OLetter f6dOther f71Extend f85Other f86Extend",
   "f88OLetter f8dExtend f98Other f99Extend fbdOther fc6Extend fc7Other 1000OLetter 102bExtend",
   "103fOLetter 1040Numeric 104aSTerm 104cOther 1050OLetter 1056Extend 105aOLetter 105eExtend",
   "1061OLetter 1062Extend 1065OLetter 1067Extend 106eOLetter 1071Extend 1075OLetter 1082Extend",
   "108eOLetter 108fExtend 1090Numeric 109aExtend 109eOther 10a0Upper 10c6Other 10c7Upper 10c8Other",
   "10cdUpper 10ceOther 10d0OLetter 10fbOther 10fcLower 10fdOLetter 1249Other 124aOLetter 124eOther",
   "1250OLetter 1257Other 1258OLetter 1259Other 125aOLetter 125eOther 1260OLetter 1289Other",
   "128aOLetter 128eOther 1290OLetter 12b1Other 12b2OLetter 12b6Other 12b8OLetter 12bfOther",
   "12c0OLetter 12c1Other 12c2OLetter 12c6Other 12c8OLetter 12d7Other 12d8OLetter 1311Other",
   "1312OLetter 1316Other 1318OLetter 135bOther 135dExtend 1360Other 1362STerm 1363Other 1367STerm",
   "1369Other 1380OLetter 1390Other 13a0Upper 13f6Other 13f8Lower 13feOther 1401OLetter 166dOther",
   "166eSTerm 166fOLetter 1680Sp 1681OLetter 169bClose 169dOther 16a0OLetter 16ebOther 16eeOLetter",
   "16f9Other 1700OLetter 1712Extend 1716Other 171fOLetter 1732Extend 1735STerm 1737Other",
   "1740OLetter 1752Extend 1754Other 1760OLetter 176dOther 176eOLetter 1771Other 1772Extend",
   "1774Other 1780OLetter 17b4Extend 17d4STerm 17d6Other 17d7OLetter 17d8Other 17dcOLetter",
   "17ddExtend 17deOther 17e0Numeric 17eaOther 1802SContinue 1803STerm 1804Other 1808SContinue",
   "1809STerm 180aOther 180bExtend 180eFormat 180fExtend 1810Numeric 181aOther 1820OLetter 1879Other",
   "1880OLetter 1885Extend 1887OLetter 18a9Extend 18aaOLetter 18abOther 18b0OLetter 18f6Other",
   "1900OLetter 191fOther 1920Extend 192cOther 1930Extend 193cOther 1944STerm 1946Numeric",
   "1950OLetter 196eOther 1970OLetter 1975Other 1980OLetter 19acOther 19b0OLetter 19caOther",
   "19d0Numeric 19daOther 1a00OLetter 1a17Extend 1a1cOther 1a20OLetter 1a55Extend 1a5fOther",
   "1a60Extend 1a7dOther 1a7fExtend 1a80Numeric 1a8aOther 1a90Numeric 1a9aOther 1aa7OLetter",
   "1aa8STerm 1aacOther 1ab0Extend 1acfOther 1b00Extend 1b05OLetter 1b34Extend 1b45OLetter 1b4dOther",
   "1b4eSTerm 1b50Numeric 1b5aSTerm 1b5cOther 1b5eSTerm 1b60Other 1b6bExtend 1b74Other 1b7dSTerm",
   "1b80Extend 1b83OLetter 1ba1Extend 1baeOLetter 1bb0Numeric 1bbaOLetter 1be6Extend 1bf4Other",
   "1c00OLetter 1c24Extend 1c38Other 1c3bSTerm 1c3dOther 1c40Numeric 1c4aOther 1c4dOLetter",
   "1c50Numeric 1c5aOLetter 1c7eSTerm 1c80Lower 1c89Upper 1c8aLower 1c8bOther 1c90OLetter 1cbbOther",
   "1cbdOLetter 1cc0Other 1cd0Extend 1cd3Other 1cd4Extend 1ce9OLetter 1cedExtend 1ceeOLetter",
   "1cf4Extend 1cf5OLetter 1cf7Extend 1cfaOLetter 1cfbOther 1d00Lower 1dc0Extend 1e00Upper 1e01Lower",
   "1e02Upper 1e03Lower 1e04Upper 1e05Lower 1e06Upper 1e07Lower 1e08Upper 1e09Lower 1e0aUpper",
   "1e0bLower 1e0cUpper 1e0dLower 1e0eUpper 1e0fLower 1e10Upper 1e11Lower 1e12Upper 1e13Lower",
   "1e14Upper 1e15Lower 1e16Upper 1e17Lower 1e18Upper 1e19Lower 1e1aUpper 1e1bLower 1e1cUpper",
   "1e1dLower 1e1eUpper 1e1fLower 1e20Upper 1e21Lower 1e22Upper 1e23Lower 1e24Upper 1e25Lower",
   "1e26Upper 1e27Lower 1e28Upper 1e29Lower 1e2aUpper 1e2bLower 1e2cUpper 1e2dLower 1e2eUpper",
   "1e2fLower 1e30Upper 1e31Lower 1e32Upper 1e33Lower 1e34Upper 1e35Lower 1e36Upper 1e37Lower",
   "1e38Upper 1e39Lower 1e3aUpper 1e3bLower 1e3cUpper 1e3dLower 1e3eUpper 1e3fLower 1e40Upper",
   "1e41Lower 1e42Upper 1e43Lower 1e44Upper 1e45Lower 1e46Upper 1e47Lower 1e48Upper 1e49Lower",
   "1e4aUpper 1e4bLower 1e4cUpper 1e4dLower 1e4eUpper 1e4fLower 1e50Upper 1e51Lower 1e52Upper",
   "1e53Lower 1e54Upper 1e55Lower 1e56Upper 1e57Lower 1e58Upper 1e59Lower 1e5aUpper 1e5bLower",
   "1e5cUpper 1e5dLower 1e5eUpper 1e5fLower 1e60Upper 1e61Lower 1e62Upper 1e63Lower 1e64Upper",
   "1e65Lower 1e66Upper 1e67Lower 1e68Upper 1e69Lower 1e6aUpper 1e6bLower 1e6cUpper 1e6dLower",
   "1e6eUpper 1e6fLower 1e70Upper 1e71Lower 1e72Upper 1e73Lower 1e74Upper 1e75Lower 1e76Upper",
   "1e77Lower 1e78Upper 1e79Lower 1e7aUpper 1e7bLower 1e7cUpper 1e7dLower 1e7eUpper 1e7fLower",
   "1e80Upper 1e81Lower 1e82Upper 1e83Lower 1e84Upper 1e85Lower 1e86Upper 1e87Lower 1e88Upper",
   "1e89Lower 1e8aUpper 1e8bLower 1e8cUpper 1e8dLower 1e8eUpper 1e8fLower 1e90Upper 1e91Lower",
   "1e92Upper 1e93Lower 1e94Upper 1e95Lower 1e9eUpper 1e9fLower 1ea0Upper 1ea1Lower 1ea2Upper",
   "1ea3Lower 1ea4Upper 1ea5Lower 1ea6Upper 1ea7Lower 1ea8Upper 1ea9Lower 1eaaUpper 1eabLower",
   "1eacUpper 1eadLower 1eaeUpper 1eafLower 1eb0Upper 1eb1Lower 1eb2Upper 1eb3Lower 1eb4Upper",
   "1eb5Lower 1eb6Upper 1eb7Lower 1eb8Upper 1eb9Lower 1ebaUpper 1ebbLower 1ebcUpper 1ebdLower",
   "1ebeUpper 1ebfLower 1ec0Upper 1ec1Lower 1ec2Upper 1ec3Lower 1ec4Upper 1ec5Lower 1ec6Upper",
   "1ec7Lower 1ec8Upper 1ec9Lower 1ecaUpper 1ecbLower 1eccUpper 1ecdLower 1eceUpper 1ecfLower",
   "1ed0Upper 1ed1Lower 1ed2Upper 1ed3Lower 1ed4Upper 1ed5Lower 1ed6Upper 1ed7Lower 1ed8Upper",
   "1ed9Lower 1edaUpper 1edbLower 1edcUpper 1eddLower 1edeUpper 1edfLower 1ee0Upper 1ee1Lower",
   "1ee2Upper 1ee3Lower 1ee4Upper 1ee5Lower 1ee6Upper 1ee7Lower 1ee8Upper 1ee9Lower 1eeaUpper",
   "1eebLower 1eecUpper 1eedLower 1eeeUpper 1eefLower 1ef0Upper 1ef1Lower 1ef2Upper 1ef3Lower",
   "1ef4Upper 1ef5Lower 1ef6Upper 1ef7Lower 1ef8Upper 1ef9Lower 1efaUpper 1efbLower 1efcUpper",
   "1efdLower 1efeUpper 1effLower 1f08Upper 1f10Lower 1f16Other 1f18Upper 1f1eOther 1f20Lower",
   "1f28Upper 1f30Lower 1f38Upper 1f40Lower 1f46Other 1f48Upper 1f4eOther 1f50Lower 1f58Other",
   "1f59Upper 1f5aOther 1f5bUpper 1f5cOther 1f5dUpper 1f5eOther 1f5fUpper 1f60Lower 1f68Upper",
   "1f70Lower 1f7eOther 1f80Lower 1f88Upper 1f90Lower 1f98Upper 1fa0Lower 1fa8Upper 1fb0Lower",
   "1fb5Other 1fb6Lower 1fb8Upper 1fbdOther 1fbeLower 1fbfOther 1fc2Lower 1fc5Other 1fc6Lower",
   "1fc8Upper 1fcdOther 1fd0Lower 1fd4Other 1fd6Lower 1fd8Upper 1fdcOther 1fe0Lower 1fe8Upper",
   "1fedOther 1ff2Lower 1ff5Other 1ff6Lower 1ff8Upper 1ffdOther 2000Sp 200bFormat 200cExtend",
   "200eFormat 2010Other 2013SContinue 2015Other 2018Close 2020Other 2024ATerm 2025Other 2028Sep",
   "202aFormat 202fSp 2030Other 2039Close 203bOther 203cSTerm 203eOther 2045Close 2047STerm",
   "204aOther 205fSp 2060Format 2065Other 2066Format 2070Other 2071Lower 2072Other 207dClose",
   "207fLower 2080Other 208dClose 208fOther 2090Lower 209dOther 20d0Extend 20f1Other 2102Upper",
   "2103Other 2107Upper 2108Other 210aLower 210bUpper 210eLower 2110Upper 2113Lower 2114Other",
   "2115Upper 2116Other 2119Upper 211eOther 2124Upper 2125Other 2126Upper 2127Other 2128Upper",
   "2129Other 212aUpper 212eOther 212fLower 2130Upper 2134Lower 2135OLetter 2139Lower 213aOther",
   "213cLower 213eUpper 2140Other 2145Upper 2146Lower 214aOther 214eLower 214fOther 2160Upper",
   "2170Lower 2180OLetter 2183Upper 2184Lower 2185OLetter 2189Other 2308Close 230cOther 2329Close",
   "232bOther 24b6Upper 24d0Lower 24eaOther 275bClose 2761Other 2768Close 2776Other 27c5Close",
   "27c7Other 27e6Close 27f0Other 2983Close 2999Other 29d8Close 29dcOther 29fcClose 29feOther",
   "2c00Upper 2c30Lower 2c60Upper 2c61Lower 2c62Upper 2c65Lower 2c67Upper 2c68Lower 2c69Upper",
   "2c6aLower 2c6bUpper 2c6cLower 2c6dUpper 2c71Lower 2c72Upper 2c73Lower 2c75Upper 2c76Lower",
   "2c7eUpper 2c81Lower 2c82Upper 2c83Lower 2c84Upper 2c85Lower 2c86Upper 2c87Lower 2c88Upper",
   "2c89Lower 2c8aUpper 2c8bLower 2c8cUpper 2c8dLower 2c8eUpper 2c8fLower 2c90Upper 2c91Lower",
   "2c92Upper 2c93Lower 2c94Upper 2c95Lower 2c96Upper 2c97Lower 2c98Upper 2c99Lower 2c9aUpper",
   "2c9bLower 2c9cUpper 2c9dLower 2c9eUpper 2c9fLower 2ca0Upper 2ca1Lower 2ca2Upper 2ca3Lower",
   "2ca4Upper 2ca5Lower 2ca6Upper 2ca7Lower 2ca8Upper 2ca9Lower 2caaUpper 2cabLower 2cacUpper",
   "2cadLower 2caeUpper 2cafLower 2cb0Upper 2cb1Lower 2cb2Upper 2cb3Lower 2cb4Upper 2cb5Lower",
   "2cb6Upper 2cb7Lower 2cb8Upper 2cb9Lower 2cbaUpper 2cbbLower 2cbcUpper 2cbdLower 2cbeUpper",
   "2cbfLower 2cc0Upper 2cc1Lower 2cc2Upper 2cc3Lower 2cc4Upper 2cc5Lower 2cc6Upper 2cc7Lower",
   "2cc8Upper 2cc9Lower 2ccaUpper 2ccbLower 2cccUpper 2ccdLower 2cceUpper 2ccfLower 2cd0Upper",
   "2cd1Lower 2cd2Upper 2cd3Lower 2cd4Upper 2cd5Lower 2cd6Upper 2cd7Lower 2cd8Upper 2cd9Lower",
   "2cdaUpper 2cdbLower 2cdcUpper 2cddLower 2cdeUpper 2cdfLower 2ce0Upper 2ce1Lower 2ce2Upper",
   "2ce3Lower 2ce5Other 2cebUpper 2cecLower 2cedUpper 2ceeLower 2cefExtend 2cf2Upper 2cf3Lower",
   "2cf4Other 2cf9STerm 2cfcOther 2d00Lower 2d26Other 2d27Lower 2d28Other 2d2dLower 2d2eOther",
   "2d30OLetter 2d68Other 2d6fOLetter 2d70Other 2d7fExtend 2d80OLetter 2d97Other 2da0OLetter",
   "2da7Other 2da8OLetter 2dafOther 2db0OLetter 2db7Other 2db8OLetter 2dbfOther 2dc0OLetter",
   "2dc7Other 2dc8OLetter 2dcfOther 2dd0OLetter 2dd7Other 2dd8OLetter 2ddfOther 2de0Extend 2e00Close",
   "2e0eOther 2e1cClose 2e1eOther 2e20Close 2e2aOther 2e2eSTerm 2e2fOLetter 2e30Other 2e3cSTerm",
   "2e3dOther 2e42Close 2e43Other 2e53STerm 2e55Close 2e5dOther 3000Sp 3001SContinue 3002STerm",
   "3003Other 3005OLetter 3008Close 3012Other 3014Close 301cOther 301dClose 3020Other 3021OLetter",
   "302aExtend 3030Other 3031OLetter 3036Other 3038OLetter 303dOther 3041OLetter 3097Other",
   "3099Extend 309bOther 309dOLetter 30a0Other 30a1OLetter 30fbOther 30fcOLetter 3100Other",
   "3105OLetter 3130Other 3131OLetter 318fOther 31a0OLetter 31c0Other 31f0OLetter 3200Other",
   "3400OLetter 4dc0Other 4e00OLetter a48dOther a4d0OLetter a4feOther a4ffSTerm a500OLetter",
   "a60dOther a60eSTerm a610OLetter a620Numeric a62aOLetter a62cOther a640Upper a641Lower a642Upper",
   "a643Lower a644Upper a645Lower a646Upper a647Lower a648Upper a649Lower a64aUpper a64bLower",
   "a64cUpper a64dLower a64eUpper a64fLower a650Upper a651Lower a652Upper a653Lower a654Upper",
   "a655Lower a656Upper a657Lower a658Upper a659Lower a65aUpper a65bLower a65cUpper a65dLower",
   "a65eUpper a65fLower a660Upper a661Lower a662Upper a663Lower a664Upper a665Lower a666Upper",
   "a667Lower a668Upper a669Lower a66aUpper a66bLower a66cUpper a66dLower a66eOLetter a66fExtend",
   "a673Other a674Extend a67eOther a67fOLetter a680Upper a681Lower a682Upper a683Lower a684Upper",
   "a685Lower a686Upper a687Lower a688Upper a689Lower a68aUpper a68bLower a68cUpper a68dLower",
   "a68eUpper a68fLower a690Upper a691Lower a692Upper a693Lower a694Upper a695Lower a696Upper",
   "a697Lower a698Upper a699Lower a69aUpper a69bLower a69eExtend a6a0OLetter a6f0Extend a6f2Other",
   "a6f3STerm a6f4Other a6f7STerm a6f8Other a717OLetter a720Other a722Upper a723Lower a724Upper",
   "a725Lower a726Upper a727Lower a728Upper a729Lower a72aUpper a72bLower a72cUpper a72dLower",
   "a72eUpper a72fLower a732Upper a733Lower a734Upper a735Lower a736Upper a737Lower a738Upper",
   "a739Lower a73aUpper a73bLower a73cUpper a73dLower a73eUpper a73fLower a740Upper a741Lower",
   "a742Upper a743Lower a744Upper a745Lower a746Upper a747Lower a748Upper a749Lower a74aUpper",
   "a74bLower a74cUpper a74dLower a74eUpper a74fLower a750Upper a751Lower a752Upper a753Lower",
   "a754Upper a755Lower a756Upper a757Lower a758Upper a759Lower a75aUpper a75bLower a75cUpper",
   "a75dLower a75eUpper a75fLower a760Upper a761Lower a762Upper a763Lower a764Upper a765Lower",
   "a766Upper a767Lower a768Upper a769Lower a76aUpper a76bLower a76cUpper a76dLower a76eUpper",
   "a76fLower a779Upper a77aLower a77bUpper a77cLower a77dUpper a77fLower a780Upper a781Lower",
   "a782Upper a783Lower a784Upper a785Lower a786Upper a787Lower a788OLetter a789Other a78bUpper",
   "a78cLower a78dUpper a78eLower a78fOLetter a790Upper a791Lower a792Upper a793Lower a796Upper",
   "a797Lower a798Upper a799Lower a79aUpper a79bLower a79cUpper a79dLower a79eUpper a79fLower",
   "a7a0Upper a7a1Lower a7a2Upper a7a3Lower a7a4Upper a7a5Lower a7a6Upper a7a7Lower a7a8Upper",
   "a7a9Lower a7aaUpper a7afLower a7b0Upper a7b5Lower a7b6Upper a7b7Lower a7b8Upper a7b9Lower",
   "a7baUpper a7bbLower a7bcUpper a7bdLower a7beUpper a7bfLower a7c0Upper a7c1Lower a7c2Upper",
   "a7c3Lower a7c4Upper a7c8Lower a7c9Upper a7caLower a7cbUpper a7cdLower a7ceOther a7d0Upper",
   "a7d1Lower a7d2Other a7d3Lower a7d4Other a7d5Lower a7d6Upper a7d7Lower a7d8Upper a7d9Lower",
   "a7daUpper a7dbLower a7dcUpper a7ddOther a7f2Lower a7f5Upper a7f6Lower a7f7OLetter a7f8Lower",
   "a7fbOLetter a802Extend a803OLetter a806Extend a807OLetter a80bExtend a80cOLetter a823Extend",
   "a828Other a82cExtend a82dOther a840OLetter a874Other a876STerm a878Other a880Extend a882OLetter",
   "a8b4Extend a8c6Other a8ceSTerm a8d0Numeric a8daOther a8e0Extend a8f2OLetter a8f8Other",
   "a8fbOLetter a8fcOther a8fdOLetter a8ffExtend a900Numeric a90aOLetter a926Extend a92eOther",
   "a92fSTerm a930OLetter a947Extend a954Other a960OLetter a97dOther a980Extend a984OLetter",
   "a9b3Extend a9c1Other a9c8STerm a9caOther a9cfOLetter a9d0Numeric a9daOther a9e0OLetter",
   "a9e5Extend a9e6OLetter a9f0Numeric a9faOLetter a9ffOther aa00OLetter aa29Extend aa37Other",
   "aa40OLetter aa43Extend aa44OLetter aa4cExtend aa4eOther aa50Numeric aa5aOther aa5dSTerm",
   "aa60OLetter aa77Other aa7aOLetter aa7bExtend aa7eOLetter aab0Extend aab1OLetter aab2Extend",
   "aab5OLetter aab7Extend aab9OLetter aabeExtend aac0OLetter aac1Extend aac2OLetter aac3Other",
   "aadbOLetter aadeOther aae0OLetter aaebExtend aaf0STerm aaf2OLetter aaf5Extend aaf7Other",
   "ab01OLetter ab07Other ab09OLetter ab0fOther ab11OLetter ab17Other ab20OLetter ab27Other",
   "ab28OLetter ab2fOther ab30Lower ab5bOther ab5cLower ab6aOther ab70Lower abc0OLetter abe3Extend",
   "abebSTerm abecExtend abeeOther abf0Numeric abfaOther ac00OLetter d7a4Other d7b0OLetter d7c7Other",
   "d7cbOLetter d7fcOther f900OLetter fa6eOther fa70OLetter fadaOther fb00Lower fb07Other fb13Lower",
   "fb18Other fb1dOLetter fb1eExtend fb1fOLetter fb29Other fb2aOLetter fb37Other fb38OLetter",
   "fb3dOther fb3eOLetter fb3fOther fb40OLetter fb42Other fb43OLetter fb45Other fb46OLetter",
   "fbb2Other fbd3OLetter fd3eClose fd40Other fd50OLetter fd90Other fd92OLetter fdc8Other",
   "fdf0OLetter fdfcOther fe00Extend fe10SContinue fe12STerm fe13SContinue fe14Other fe15STerm",
   "fe17Close fe19Other fe20Extend fe30Other fe31SContinue fe33Other fe35Close fe45Other fe47Close",
   "fe49Other fe50SContinue fe52ATerm fe53Other fe55SContinue fe56STerm fe58SContinue fe59Close",
   "fe5fOther fe63SContinue fe64Other fe70OLetter fe75Other fe76OLetter fefdOther feffFormat",
   "ff00Other ff01STerm ff02Other ff08Close ff0aOther ff0cSContinue ff0eATerm ff0fOther ff10Numeric",
   "ff1aSContinue ff1bOther ff1fSTerm ff20Other ff21Upper ff3bClose ff3cOther ff3dClose ff3eOther",
   "ff41Lower ff5bClose ff5cOther ff5dClose ff5eOther ff5fClose ff61STerm ff62Close ff64SContinue",
   "ff65Other ff66OLetter ff9eExtend ffa0OLetter ffbfOther ffc2OLetter ffc8Other ffcaOLetter",
   "ffd0Other ffd2OLetter ffd8Other ffdaOLetter ffddOther fff9Format fffcOther 10000OLetter",
   "1000cOther 1000dOLetter 10027Other 10028OLetter 1003bOther 1003cOLetter 1003eOther 1003fOLetter",
   "1004eOther 10050OLetter 1005eOther 10080OLetter 100fbOther 10140OLetter 10175Other 101fdExtend",
   "101feOther 10280OLetter 1029dOther 102a0OLetter 102d1Other 102e0Extend 102e1Other 10300OLetter",
   "10320Other 1032dOLetter 1034bOther 10350OLetter 10376Extend 1037bOther 10380OLetter 1039eOther",
   "103a0OLetter 103c4Other 103c8OLetter 103d0Other 103d1OLetter 103d6Other 10400Upper 10428Lower",
   "10450OLetter 1049eOther 104a0Numeric 104aaOther 104b0Upper 104d4Other 104d8Lower 104fcOther",
   "10500OLetter 10528Other 10530OLetter 10564Other 10570Upper 1057bOther 1057cUpper 1058bOther",
   "1058cUpper 10593Other 10594Upper 10596Other 10597Lower 105a2Other 105a3Lower 105b2Other",
   "105b3Lower 105baOther 105bbLower 105bdOther 105c0OLetter 105f4Other 10600OLetter 10737Other",
   "10740OLetter 10756Other 10760OLetter 10768Other 10780Lower 10781OLetter 10783Lower 10786Other",
   "10787Lower 107b1Other 107b2Lower 107bbOther 10800OLetter 10806Other 10808OLetter 10809Other",
   "1080aOLetter 10836Other 10837OLetter 10839Other 1083cOLetter 1083dOther 1083fOLetter 10856Other",
   "10860OLetter 10877Other 10880OLetter 1089fOther 108e0OLetter 108f3Other 108f4OLetter 108f6Other",
   "10900OLetter 10916Other 10920OLetter 1093aOther 10980OLetter 109b8Other 109beOLetter 109c0Other",
   "10a00OLetter 10a01Extend 10a04Other 10a05Extend 10a07Other 10a0cExtend 10a10OLetter 10a14Other",
   "10a15OLetter 10a18Other 10a19OLetter 10a36Other 10a38Extend 10a3bOther 10a3fExtend 10a40Other",
   "10a56STerm 10a58Other 10a60OLetter 10a7dOther 10a80OLetter 10a9dOther 10ac0OLetter 10ac8Other",
   "10ac9OLetter 10ae5Extend 10ae7Other 10b00OLetter 10b36Other 10b40OLetter 10b56Other 10b60OLetter",
   "10b73Other 10b80OLetter 10b92Other 10c00OLetter 10c49Other 10c80Upper 10cb3Other 10cc0Lower",
   "10cf3Other 10d00OLetter 10d24Extend 10d28Other 10d30Numeric 10d3aOther 10d40Numeric 10d4aOLetter",
   "10d50Upper 10d66Other 10d69Extend 10d6eOther 10d6fOLetter 10d70Lower 10d86Other 10e80OLetter",
   "10eaaOther 10eabExtend 10eadOther 10eb0OLetter 10eb2Other 10ec2OLetter 10ec5Other 10efcExtend",
   "10f00OLetter 10f1dOther 10f27OLetter 10f28Other 10f30OLetter 10f46Extend 10f51Other 10f55STerm",
   "10f5aOther 10f70OLetter 10f82Extend 10f86STerm 10f8aOther 10fb0OLetter 10fc5Other 10fe0OLetter",
   "10ff7Other 11000Extend 11003OLetter 11038Extend 11047STerm 11049Other 11066Numeric 11070Extend",
   "11071OLetter 11073Extend 11075OLetter 11076Other 1107fExtend 11083OLetter 110b0Extend 110bbOther",
   "110bdFormat 110beSTerm 110c2Extend 110c3Other 110cdFormat 110ceOther 110d0OLetter 110e9Other",
   "110f0Numeric 110faOther 11100Extend 11103OLetter 11127Extend 11135Other 11136Numeric 11140Other",
   "11141STerm 11144OLetter 11145Extend 11147OLetter 11148Other 11150OLetter 11173Extend 11174Other",
   "11176OLetter 11177Other 11180Extend 11183OLetter 111b3Extend 111c1OLetter 111c5STerm 111c7Other",
   "111c9Extend 111cdSTerm 111ceExtend 111d0Numeric 111daOLetter 111dbOther 111dcOLetter 111ddOther",
   "111deSTerm 111e0Other 11200OLetter 11212Other 11213OLetter 1122cExtend 11238STerm 1123aOther",
   "1123bSTerm 1123dOther 1123eExtend 1123fOLetter 11241Extend 11242Other 11280OLetter 11287Other",
   "11288OLetter 11289Other 1128aOLetter 1128eOther 1128fOLetter 1129eOther 1129fOLetter 112a9STerm",
   "112aaOther 112b0OLetter 112dfExtend 112ebOther 112f0Numeric 112faOther 11300Extend 11304Other",
   "11305OLetter 1130dOther 1130fOLetter 11311Other 11313OLetter 11329Other 1132aOLetter 11331Other",
   "11332OLetter 11334Other 11335OLetter 1133aOther 1133bExtend 1133dOLetter 1133eExtend 11345Other",
   "11347Extend 11349Other 1134bExtend 1134eOther 11350OLetter 11351Other 11357Extend 11358Other",
   "1135dOLetter 11362Extend 11364Other 11366Extend 1136dOther 11370Extend 11375Other 11380OLetter",
   "1138aOther 1138bOLetter 1138cOther 1138eOLetter 1138fOther 11390OLetter 113b6Other 113b7OLetter",
   "113b8Extend 113c1Other 113c2Extend 113c3Other 113c5Extend 113c6Other 113c7Extend 113cbOther",
   "113ccExtend 113d1OLetter 113d2Extend 113d3OLetter 113d4STerm 113d6Other 113e1Extend 113e3Other",
   "11400OLetter 11435Extend 11447OLetter 1144bSTerm 1144dOther 11450Numeric 1145aOther 1145eExtend",
   "1145fOLetter 11462Other 11480OLetter 114b0Extend 114c4OLetter 114c6Other 114c7OLetter 114c8Other",
   "114d0Numeric 114daOther 11580OLetter 115afExtend 115b6Other 115b8Extend 115c1Other 115c2STerm",
   "115c4Other 115c9STerm 115d8OLetter 115dcExtend 115deOther 11600OLetter 11630Extend 11641STerm",
   "11643Other 11644OLetter 11645Other 11650Numeric 1165aOther 11680OLetter 116abExtend 116b8OLetter",
   "116b9Other 116c0Numeric 116caOther 116d0Numeric 116e4Other 11700OLetter 1171bOther 1171dExtend",
   "1172cOther 11730Numeric 1173aOther 1173cSTerm 1173fOther 11740OLetter 11747Other 11800OLetter",
   "1182cExtend 1183bOther 118a0Upper 118c0Lower 118e0Numeric 118eaOther 118ffOLetter 11907Other",
   "11909OLetter 1190aOther 1190cOLetter 11914Other 11915OLetter 11917Other 11918OLetter 11930Extend",
   "11936Other 11937Extend 11939Other 1193bExtend 1193fOLetter 11940Extend 11941OLetter 11942Extend",
   "11944STerm 11945Other 11946STerm 11947Other 11950Numeric 1195aOther 119a0OLetter 119a8Other",
   "119aaOLetter 119d1Extend 119d8Other 119daExtend 119e1OLetter 119e2Other 119e3OLetter 119e4Extend",
   "119e5Other 11a00OLetter 11a01Extend 11a0bOLetter 11a33Extend 11a3aOLetter 11a3bExtend 11a3fOther",
   "11a42STerm 11a44Other 11a47Extend 11a48Other 11a50OLetter 11a51Extend 11a5cOLetter 11a8aExtend",
   "11a9aOther 11a9bSTerm 11a9dOLetter 11a9eOther 11ab0OLetter 11af9Other 11bc0OLetter 11be1Other",
   "11bf0Numeric 11bfaOther 11c00OLetter 11c09Other 11c0aOLetter 11c2fExtend 11c37Other 11c38Extend",
   "11c40OLetter 11c41STerm 11c43Other 11c50Numeric 11c5aOther 11c72OLetter 11c90Other 11c92Extend",
   "11ca8Other 11ca9Extend 11cb7Other 11d00OLetter 11d07Other 11d08OLetter 11d0aOther 11d0bOLetter",
   "11d31Extend 11d37Other 11d3aExtend 11d3bOther 11d3cExtend 11d3eOther 11d3fExtend 11d46OLetter",
   "11d47Extend 11d48Other 11d50Numeric 11d5aOther 11d60OLetter 11d66Other 11d67OLetter 11d69Other",
   "11d6aOLetter 11d8aExtend 11d8fOther 11d90Extend 11d92Other 11d93Extend 11d98OLetter 11d99Other",
   "11da0Numeric 11daaOther 11ee0OLetter 11ef3Extend 11ef7STerm 11ef9Other 11f00Extend 11f02OLetter",
   "11f03Extend 11f04OLetter 11f11Other 11f12OLetter 11f34Extend 11f3bOther 11f3eExtend 11f43STerm",
   "11f45Other 11f50Numeric 11f5aExtend 11f5bOther 11fb0OLetter 11fb1Other 12000OLetter 1239aOther",
   "12400OLetter 1246fOther 12480OLetter 12544Other 12f90OLetter 12ff1Other 13000OLetter 13430Format",
   "13440Extend 13441OLetter 13447Extend 13456Other 13460OLetter 143fbOther 14400OLetter 14647Other",
   "16100OLetter 1611eExtend 16130Numeric 1613aOther 16800OLetter 16a39Other 16a40OLetter 16a5fOther",
   "16a60Numeric 16a6aOther 16a6eSTerm 16a70OLetter 16abfOther 16ac0Numeric 16acaOther 16ad0OLetter",
   "16aeeOther 16af0Extend 16af5STerm 16af6Other 16b00OLetter 16b30Extend 16b37STerm 16b39Other",
   "16b40OLetter 16b44STerm 16b45Other 16b50Numeric 16b5aOther 16b63OLetter 16b78Other 16b7dOLetter",
   "16b90Other 16d40OLetter 16d6dOther 16d6eSTerm 16d70Numeric 16d7aOther 16e40Upper 16e60Lower",
   "16e80Other 16e98STerm 16e99Other 16f00OLetter 16f4bOther 16f4fExtend 16f50OLetter 16f51Extend",
   "16f88Other 16f8fExtend 16f93OLetter 16fa0Other 16fe0OLetter 16fe2Other 16fe3OLetter 16fe4Extend",
   "16fe5Other 16ff0Extend 16ff2Other 17000OLetter 187f8Other 18800OLetter 18cd6Other 18cffOLetter",
   "18d09Other 1aff0OLetter 1aff4Other 1aff5OLetter 1affcOther 1affdOLetter 1afffOther 1b000OLetter",
   "1b123Other 1b132OLetter 1b133Other 1b150OLetter 1b153Other 1b155OLetter 1b156Other 1b164OLetter",
   "1b168Other 1b170OLetter 1b2fcOther 1bc00OLetter 1bc6bOther 1bc70OLetter 1bc7dOther 1bc80OLetter",
   "1bc89Other 1bc90OLetter 1bc9aOther 1bc9dExtend 1bc9fSTerm 1bca0Format 1bca4Other 1ccf0Numeric",
   "1ccfaOther 1cf00Extend 1cf2eOther 1cf30Extend 1cf47Other 1d165Extend 1d16aOther 1d16dExtend",
   "1d173Format 1d17bExtend 1d183Other 1d185Extend 1d18cOther 1d1aaExtend 1d1aeOther 1d242Extend",
   "1d245Other 1d400Upper 1d41aLower 1d434Upper 1d44eLower 1d455Other 1d456Lower 1d468Upper",
   "1d482Lower 1d49cUpper 1d49dOther 1d49eUpper 1d4a0Other 1d4a2Upper 1d4a3Other 1d4a5Upper",
   "1d4a7Other 1d4a9Upper 1d4adOther 1d4aeUpper 1d4b6Lower 1d4baOther 1d4bbLower 1d4bcOther",
   "1d4bdLower 1d4c4Other 1d4c5Lower 1d4d0Upper 1d4eaLower 1d504Upper 1d506Other 1d507Upper",
   "1d50bOther 1d50dUpper 1d515Other 1d516Upper 1d51dOther 1d51eLower 1d538Upper 1d53aOther",
   "1d53bUpper 1d53fOther 1d540Upper 1d545Other 1d546Upper 1d547Other 1d54aUpper 1d551Other",
   "1d552Lower 1d56cUpper 1d586Lower 1d5a0Upper 1d5baLower 1d5d4Upper 1d5eeLower 1d608Upper",
   "1d622Lower 1d63cUpper 1d656Lower 1d670Upper 1d68aLower 1d6a6Other 1d6a8Upper 1d6c1Other",
   "1d6c2Lower 1d6dbOther 1d6dcLower 1d6e2Upper 1d6fbOther 1d6fcLower 1d715Other 1d716Lower",
   "1d71cUpper 1d735Other 1d736Lower 1d74fOther 1d750Lower 1d756Upper 1d76fOther 1d770Lower",
   "1d789Other 1d78aLower 1d790Upper 1d7a9Other 1d7aaLower 1d7c3Other 1d7c4Lower 1d7caUpper",
   "1d7cbLower 1d7ccOther 1d7ceNumeric 1d800Other 1da00Extend 1da37Other 1da3bExtend 1da6dOther",
   "1da75Extend 1da76Other 1da84Extend 1da85Other 1da88STerm 1da89Other 1da9bExtend 1daa0Other",
   "1daa1Extend 1dab0Other 1df00Lower 1df0aOLetter 1df0bLower 1df1fOther 1df25Lower 1df2bOther",
   "1e000Extend 1e007Other 1e008Extend 1e019Other 1e01bExtend 1e022Other 1e023Extend 1e025Other",
   "1e026Extend 1e02bOther 1e030Lower 1e06eOther 1e08fExtend 1e090Other 1e100OLetter 1e12dOther",
   "1e130Extend 1e137OLetter 1e13eOther 1e140Numeric 1e14aOther 1e14eOLetter 1e14fOther 1e290OLetter",
   "1e2aeExtend 1e2afOther 1e2c0OLetter 1e2ecExtend 1e2f0Numeric 1e2faOther 1e4d0OLetter 1e4ecExtend",
   "1e4f0Numeric 1e4faOther 1e5d0OLetter 1e5eeExtend 1e5f0OLetter 1e5f1Numeric 1e5fbOther",
   "1e7e0OLetter 1e7e7Other 1e7e8OLetter 1e7ecOther 1e7edOLetter 1e7efOther 1e7f0OLetter 1e7ffOther",
   "1e800OLetter 1e8c5Other 1e8d0Extend 1e8d7Other 1e900Upper 1e922Lower 1e944Extend 1e94bOLetter",
   "1e94cOther 1e950Numeric 1e95aOther 1ee00OLetter 1ee04Other 1ee05OLetter 1ee20Other 1ee21OLetter",
   "1ee23Other 1ee24OLetter 1ee25Other 1ee27OLetter 1ee28Other 1ee29OLetter 1ee33Other 1ee34OLetter",
   "1ee38Other 1ee39OLetter 1ee3aOther 1ee3bOLetter 1ee3cOther 1ee42OLetter 1ee43Other 1ee47OLetter",
   "1ee48Other 1ee49OLetter 1ee4aOther 1ee4bOLetter 1ee4cOther 1ee4dOLetter 1ee50Other 1ee51OLetter",
   "1ee53Other 1ee54OLetter 1ee55Other 1ee57OLetter 1ee58Other 1ee59OLetter 1ee5aOther 1ee5bOLetter",
   "1ee5cOther 1ee5dOLetter 1ee5eOther 1ee5fOLetter 1ee60Other 1ee61OLetter 1ee63Other 1ee64OLetter",
   "1ee65Other 1ee67OLetter 1ee6bOther 1ee6cOLetter 1ee73Other 1ee74OLetter 1ee78Other 1ee79OLetter",
   "1ee7dOther 1ee7eOLetter 1ee7fOther 1ee80OLetter 1ee8aOther 1ee8bOLetter 1ee9cOther 1eea1OLetter",
   "1eea4Other 1eea5OLetter 1eeaaOther 1eeabOLetter 1eebcOther 1f130Upper 1f14aOther 1f150Upper",
   "1f16aOther 1f170Upper 1f18aOther 1f676Close 1f679Other 1fbf0Numeric 1fbfaOther 20000OLetter",
   "2a6e0Other 2a700OLetter 2b73aOther 2b740OLetter 2b81eOther 2b820OLetter 2cea2Other 2ceb0OLetter",
   "2ebe1Other 2ebf0OLetter 2ee5eOther 2f800OLetter 2fa1eOther 30000OLetter 3134bOther 31350OLetter",
   "323b0Other e0001Format e0002Other e0020Extend e0080Other e0100Extend e01f0Other"]

/-- The values of Grapheme_Cluster_Break, each with its names. -/
def clusterNames : List (String × List String) := [
  ("CR", ["cr"]), ("Control", ["cn", "control"]), ("Extend", ["ex", "extend"]), ("L", ["l"]), ("LF", ["lf"]),
  ("LV", ["lv"]), ("LVT", ["lvt"]), ("Prepend", ["pp", "prepend"]),
  ("RegionalIndicator", ["ri", "regionalindicator"]), ("SpacingMark", ["sm", "spacingmark"]), ("T", ["t"]),
  ("V", ["v"]), ("ZWJ", ["zwj"])]

/-- The values of Word_Break, each with its names. -/
def wordNames : List (String × List String) := [
  ("ALetter", ["le", "aletter"]), ("CR", ["cr"]), ("DoubleQuote", ["dq", "doublequote"]), ("Extend", ["extend"]),
  ("ExtendNumLet", ["ex", "extendnumlet"]), ("Format", ["fo", "format"]), ("HebrewLetter", ["hl", "hebrewletter"]),
  ("Katakana", ["ka", "katakana"]), ("LF", ["lf"]), ("MidLetter", ["ml", "midletter"]), ("MidNum", ["mn", "midnum"]),
  ("MidNumLet", ["mb", "midnumlet"]), ("Newline", ["nl", "newline"]), ("Numeric", ["nu", "numeric"]),
  ("RegionalIndicator", ["ri", "regionalindicator"]), ("SingleQuote", ["sq", "singlequote"]),
  ("WSegSpace", ["wsegspace"]), ("ZWJ", ["zwj"])]

/-- The values of Sentence_Break, each with its names. -/
def sentenceNames : List (String × List String) := [
  ("ATerm", ["at", "aterm"]), ("CR", ["cr"]), ("Close", ["cl", "close"]), ("Extend", ["ex", "extend"]),
  ("Format", ["fo", "format"]), ("LF", ["lf"]), ("Lower", ["lo", "lower"]), ("Numeric", ["nu", "numeric"]),
  ("OLetter", ["le", "oletter"]), ("SContinue", ["sc", "scontinue"]), ("STerm", ["st", "sterm"]),
  ("Sep", ["se", "sep"]), ("Sp", ["sp"]), ("Upper", ["up", "upper"])]

end ApiContract.Unicode
